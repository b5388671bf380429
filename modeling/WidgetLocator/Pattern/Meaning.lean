import WidgetLocator.Pattern.Tree
import WidgetLocator.Unicode

namespace WidgetLocator

inductive BoundaryKind where
  | either
  | neither
  | start
  | finish
  | startHalf
  | finishHalf
deriving DecidableEq, Repr

/-- A condition on a place between two characters. -/
inductive Place where
  | textStart
  | textEnd
  | lineStart
  | lineEnd
  | lineStartAfterReturn
  | lineEndBeforeReturn
  | boundary (kind : BoundaryKind) (unicode : Bool)
deriving DecidableEq, Repr

inductive PatternBody where
  | nothing
  | set (chars : CharSet)
  | place (place : Place)
  | sequence (first second : PatternBody)
  | choice (first second : PatternBody)
  | optional (body : PatternBody)
  | star (body : PatternBody)
deriving Repr, Inhabited

structure Switches where
  ignoreCase : Bool
  multiLine : Bool
  dotMatchesLineEnd : Bool
  unicode : Bool
  carriageReturns : Bool
deriving DecidableEq, Repr

/-- The switches at the start of a pattern. -/
def Switches.initial : Switches :=
  ⟨false, false, false, true, false⟩

def Switches.change (s : Switches) (change : FlagChange) : Switches where
  ignoreCase := change.apply .ignoreCase s.ignoreCase
  multiLine := change.apply .multiLine s.multiLine
  dotMatchesLineEnd := change.apply .dotMatchesLineEnd s.dotMatchesLineEnd
  unicode := change.apply .unicode s.unicode
  carriageReturns := change.apply .carriageReturns s.carriageReturns

namespace Switches

/-- A set with the other cases of its members, if case is ignored. -/
def fold (s : Switches) (set : CharSet) : CharSet :=
  if !s.ignoreCase then set else if s.unicode then set.foldCase else set.foldAsciiCase

/-- A set, folded and then negated. Without Unicode only ASCII characters may remain. -/
def foldNegate (s : Switches) (negated : Bool) (set : CharSet) : Option CharSet :=
  let folded := s.fold set
  let result := if negated then folded.complement else folded
  if s.unicode || result.isAscii then some result else none

def literalSet (s : Switches) (literal : Literal) : Option CharSet :=
  if !s.unicode && literal.byte && 128 ≤ literal.char.toNat then none
  else some (s.fold (.single literal.char))

def classChar (s : Switches) (literal : Literal) : Option Char :=
  if s.unicode || literal.char.toNat < 128 then some literal.char else none

def shorthandSet (s : Switches) (shorthand : Shorthand) (negated : Bool) : Option CharSet :=
  let set := match shorthand, s.unicode with
    | .digit, true => unicodeDigits
    | .blank, true => unicodeBlanks
    | .word, true => unicodeWordCharacters
    | .digit, false => .ofRanges [(48, 57)]
    | .blank, false => .ofRanges [(9, 13), (32, 32)]
    | .word, false => .ofRanges [(48, 57), (65, 90), (95, 95), (97, 122)]
  let result := if negated then set.complement else set
  if s.unicode || result.isAscii then some result else none

def propertyQuerySet (s : Switches) (query : PropertyQuery) (negated : Bool) : Option CharSet :=
  if !s.unicode then none
  else
    let set := match query with
      | .name name => propertySet? name
      | .value property value => propertyValueSet? property value
    set.bind (s.foldNegate negated)

def atomSet (s : Switches) : ClassAtom → Option CharSet
  | .literal l => s.literalSet l
  | .shorthand c negated => s.shorthandSet c negated
  | .property q negated => s.propertyQuerySet q negated

mutual

def classSet (s : Switches) : ClassTree → Option CharSet
  | .empty => some .empty
  | .atom (.literal l) => (s.classChar l).map .single
  | .atom a => s.atomSet a
  | .range a b => do
    let a ← s.classChar a
    let b ← s.classChar b
    return .ofRanges [(a.toNat, b.toNat)]
  | .ascii ranges negated => s.foldNegate negated (.ofRanges ranges)
  | .bracketed negated inside => (s.classSet inside).bind (s.foldNegate negated)
  | .union items => s.unionSet items
  | .operation op left right => do
    let left := s.fold (← s.classSet left)
    let right := s.fold (← s.classSet right)
    return match op with
      | .intersection => left.inter right
      | .difference => left.diff right
      | .symmetricDifference => left.symmDiff right

def unionSet (s : Switches) : List ClassTree → Option CharSet
  | [] => some .empty
  | item :: items => do
    let first ← s.classSet item
    return first.union (← s.unionSet items)

end

def dotSet (s : Switches) : Option CharSet :=
  if !s.unicode then none
  else if s.dotMatchesLineEnd then some .all
  else if s.carriageReturns then some (CharSet.ofRanges [(10, 10), (13, 13)]).complement
  else some (CharSet.ofRanges [(10, 10)]).complement

def assertionPlace (s : Switches) : Assertion → Place
  | .lineStart =>
    if !s.multiLine then .textStart
    else if s.carriageReturns then .lineStartAfterReturn
    else .lineStart
  | .lineEnd =>
    if !s.multiLine then .textEnd
    else if s.carriageReturns then .lineEndBeforeReturn
    else .lineEnd
  | .textStart => .textStart
  | .textEnd => .textEnd
  | .wordBoundary => .boundary .either s.unicode
  | .noWordBoundary => .boundary .neither s.unicode
  | .wordStart => .boundary .start s.unicode
  | .wordEnd => .boundary .finish s.unicode
  | .wordStartHalf => .boundary .startHalf s.unicode
  | .wordEndHalf => .boundary .finishHalf s.unicode

end Switches

namespace PatternBody

/-- A body several times in a row, as a tree of halves. -/
def times (body : PatternBody) (n : Nat) : PatternBody :=
  if n = 0 then .nothing
  else if n = 1 then body
  else .sequence (times body (n / 2)) (times body (n - n / 2))

/-- A body at least and at most so many times. -/
def repeated (least : Nat) (most : Option Nat) (body : PatternBody) : PatternBody :=
  .sequence (times body least) <|
    match most with
    | none => .star body
    | some most => times (.optional body) (most - least)

/-- About how many bytes a compiled set takes: a state for a character or for the ranges of ASCII
characters, else two for each range. -/
def setCost (chars : CharSet) : Nat :=
  if !chars.isAscii then 64 + 60 * chars.ranges.size
  else if chars.ranges.all fun (a, b) => a == b then 32 * chars.ranges.size
  else 64 + 8 * chars.ranges.size

end PatternBody

/-- The size that a compiled pattern may have, in bytes. -/
def patternSizeLimit : Nat :=
  10 * Nat.pow 2 20

/-- A body with the size of its compiled form. -/
structure MeasuredBody where
  body : PatternBody
  cost : Nat

mutual

/-- The meaning of a pattern, and the switches after it. A pattern too large is refused before its
repetitions are written out. -/
def PatternTree.meaning (s : Switches) : PatternTree → Option (MeasuredBody × Switches)
  | .empty => some (⟨.nothing, 32⟩, s)
  | .flags change => some (⟨.nothing, 32⟩, s.change change)
  | .atom a => (s.atomSet a).map fun set => (⟨.set set, PatternBody.setCost set⟩, s)
  | .dot => s.dotSet.map fun set => (⟨.set set, PatternBody.setCost set⟩, s)
  | .assertion a => some (⟨.place (s.assertionPlace a), 32⟩, s)
  | .bracketed negated inside => do
    let set ← (← s.classSet inside) |> s.foldNegate negated
    return (⟨.set set, PatternBody.setCost set⟩, s)
  | .repetition least most body => do
    let (m, after) ← body.meaning s
    let copies := (most.getD (max least 1))
    let cost := 40 + copies * m.cost + 40 * (copies - least)
    guard (cost ≤ patternSizeLimit)
    return (⟨.repeated least most m.body, cost⟩, after)
  | .group change body => do
    let (m, _) ← body.meaning (s.change change)
    return (⟨m.body, m.cost + 64⟩, s)
  | .concat items => concatMeaning s items
  | .alternation branches => branchMeaning s branches

def concatMeaning (s : Switches) : List PatternTree → Option (MeasuredBody × Switches)
  | [] => some (⟨.nothing, 0⟩, s)
  | item :: items => do
    let (first, s) ← item.meaning s
    let (second, s) ← concatMeaning s items
    return (⟨.sequence first.body second.body, first.cost + second.cost⟩, s)

def branchMeaning (s : Switches) : List PatternTree → Option (MeasuredBody × Switches)
  | [] => some (⟨.set .empty, 64⟩, s)
  | branch :: branches => do
    let (first, s) ← branch.meaning s
    let (second, s) ← branchMeaning s branches
    return (⟨.choice first.body second.body, first.cost + second.cost + 4⟩, s)

end

end WidgetLocator
