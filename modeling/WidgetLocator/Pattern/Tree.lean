import WidgetLocator.CharSet

namespace WidgetLocator

/-- The switches that a pattern can set for the part that follows. -/
inductive PatternFlag where
  | ignoreCase
  | multiLine
  | dotMatchesLineEnd
  | swapGreed
  | unicode
  | carriageReturns
  | verbose
deriving DecidableEq, Repr

/-- Switches with the state that each is put into. -/
abbrev FlagChange := List (PatternFlag × Bool)

/-- The state of a switch after a change. -/
def FlagChange.apply (change : FlagChange) (flag : PatternFlag) (before : Bool) : Bool :=
  ((change.find? (·.1 == flag)).map (·.2)).getD before

inductive Assertion where
  | lineStart
  | lineEnd
  | textStart
  | textEnd
  | wordBoundary
  | noWordBoundary
  | wordStart
  | wordEnd
  | wordStartHalf
  | wordEndHalf
deriving DecidableEq, Repr

/-- The classes with an escape of one letter. -/
inductive Shorthand where
  | digit
  | blank
  | word
deriving DecidableEq, Repr

/-- A property by its name, or by its name and value. -/
inductive PropertyQuery where
  | name (name : List Char)
  | value (property value : List Char)
deriving DecidableEq, Repr

/-- A character as written; `byte` tells that two hexadecimal digits name it. -/
structure Literal where
  char : Char
  byte : Bool
deriving DecidableEq, Repr

/-- One character or a class without brackets. -/
inductive ClassAtom where
  | literal (literal : Literal)
  | shorthand (class_ : Shorthand) (negated : Bool)
  | property (query : PropertyQuery) (negated : Bool)
deriving DecidableEq, Repr

inductive ClassOperation where
  | intersection
  | difference
  | symmetricDifference
deriving DecidableEq, Repr

/-- What stands between brackets. -/
inductive ClassTree where
  | empty
  | atom (atom : ClassAtom)
  | range (first last : Literal)
  | ascii (ranges : List (Nat × Nat)) (negated : Bool)
  | bracketed (negated : Bool) (inside : ClassTree)
  | union (items : List ClassTree)
  | operation (op : ClassOperation) (left right : ClassTree)
deriving Repr, Inhabited

inductive PatternTree where
  | empty
  | flags (change : FlagChange)
  | atom (atom : ClassAtom)
  | dot
  | assertion (assertion : Assertion)
  | bracketed (negated : Bool) (inside : ClassTree)
  | repetition (least : Nat) (most : Option Nat) (body : PatternTree)
  | group (change : FlagChange) (body : PatternTree)
  | concat (items : List PatternTree)
  | alternation (branches : List PatternTree)
deriving Repr, Inhabited

mutual

/-- How deep brackets, unions and operations nest. -/
def ClassTree.depth : ClassTree → Nat
  | .bracketed _ inside => inside.depth + 1
  | .union items => classDepths items + 1
  | .operation _ left right => max left.depth right.depth + 1
  | _ => 0

def classDepths : List ClassTree → Nat
  | [] => 0
  | item :: items => max item.depth (classDepths items)

end

mutual

/-- How deep the parts of a pattern nest. -/
def PatternTree.depth : PatternTree → Nat
  | .bracketed _ inside => inside.depth + 1
  | .repetition _ _ body => body.depth + 1
  | .group _ body => body.depth + 1
  | .concat items => patternDepths items + 1
  | .alternation branches => patternDepths branches + 1
  | _ => 0

def patternDepths : List PatternTree → Nat
  | [] => 0
  | item :: items => max item.depth (patternDepths items)

end

/-- Items next to each other, given in reverse. -/
def ClassTree.ofItems : List ClassTree → ClassTree
  | [] => .empty
  | [item] => item
  | items => .union items.reverse

/-- Items one after the other, given in reverse. -/
def PatternTree.ofItems : List PatternTree → PatternTree
  | [] => .empty
  | [item] => item
  | items => .concat items.reverse

/-- Branches of a choice, given in reverse. -/
def PatternTree.ofBranches : List PatternTree → PatternTree
  | [] => .empty
  | [branch] => branch
  | branches => .alternation branches.reverse

end WidgetLocator
