import WidgetLocator.Error
import WidgetLocator.Pattern
import WidgetLocator.Text

namespace WidgetLocator

/-- What an attribute step asks for: an attribute, and a pattern that its text must match. -/
structure AttributePredicate where
  key : String
  pattern : Option Pattern
deriving Repr, Inhabited

/-- An attribute step as it is written. Without a predicate it never leads anywhere. -/
structure AttributeStep where
  raw : String
  predicate : Option AttributePredicate
deriving Repr, Inhabited

/-- Attribute steps are equal if they are written alike. -/
instance : BEq AttributeStep :=
  ⟨fun a b => a.raw == b.raw⟩

inductive PathStep where
  /-- This node, or any node below it. -/
  | wildcard
  /-- The member with a name, or the first descendant of a class. -/
  | name (name : String)
  /-- The descendant at a place. -/
  | index (index : Nat)
  | attr (step : AttributeStep)
deriving Repr, Inhabited, BEq

/-- The largest index of a step. A larger one is cut down to it. -/
def largestIndex : Nat :=
  Nat.pow 2 64 - 1

/-- Whether a name is the name of a class. -/
def isClassName (name : String) : Bool :=
  "qx.".toList.isPrefixOf name.toList

/-- A letter or dollar sign, and then letters, digits, underscores, dots and dollar signs. -/
def isIdentifier : List Char → Bool
  | [] => false
  | c :: cs =>
    (isAsciiLetter c || c == '$') &&
      cs.all fun d => isAsciiLetter d || isAsciiDigit d || d == '_' || d == '.' || d == '$'

/-- The digits of an indexed step, whose leading word may be in any case. -/
def indexDigits? (segment : List Char) : Option (List Char) :=
  if (segment.take 6).map asciiLower = "child[".toList then
    let body := segment.drop 6
    let digits := body.dropLast
    if body.getLast? = some ']' ∧ digits ≠ [] ∧ digits.all isAsciiDigit then some digits else none
  else none

def isBracketed (segment : List Char) : Bool :=
  2 ≤ segment.length && segment.head? == some '[' && segment.getLast? == some ']'

/-- What follows each occurrence of `[@`. -/
def afterMarks : List Char → List (List Char)
  | '[' :: '@' :: rest => rest :: afterMarks rest
  | _ :: rest => afterMarks rest
  | [] => []

/-- A key, and a value after an equals sign; neither may be empty. -/
def keyAndValue? (body : List Char) : Option (List Char × Option (List Char)) :=
  match splitAtFirst '=' body with
  | some (key, value) => if key = [] ∨ value = [] then none else some (key, some value)
  | none => if body = [] then none else some (body, none)

def isQuote (c : Char) : Bool :=
  c == '\'' || c == '"'

/-- A value without the quotes at its two ends. -/
def unquoted (value : List Char) : List Char :=
  if 2 ≤ value.length ∧ value.head?.any isQuote ∧ value.getLast?.any isQuote then
    (value.drop 1).dropLast
  else value

/-- The key and value that an attribute step is about: the first ones after a `[@`. The bracket at
the end of the segment belongs to none of them. -/
def selectedAttribute? (segment : List Char) : Option (List Char × Option (List Char)) :=
  (afterMarks segment).findSome? fun rest => keyAndValue? rest.dropLast

/-- The predicate of an attribute step, if it has one. -/
def attributePredicate (segment : List Char) : Except Error (Option AttributePredicate) :=
  match selectedAttribute? segment with
  | none => .ok none
  | some (key, none) => .ok (some ⟨String.ofList key, none⟩)
  | some (key, some value) =>
    let text := String.ofList (unquoted value)
    match Pattern.ofText? text with
    | some pattern => .ok (some ⟨String.ofList key, some pattern⟩)
    | none => .error (.illFormed (.badPattern text))

namespace PathStep

def parse (segment : List Char) : Except Error PathStep :=
  if segment = ['*'] then .ok .wildcard
  else if isIdentifier segment then .ok (.name (String.ofList segment))
  else
    match indexDigits? segment with
    | some digits => .ok (.index (min (decimalValue digits) largestIndex))
    | none =>
      if isBracketed segment then
        (attributePredicate segment).map fun predicate =>
          .attr ⟨String.ofList segment, predicate⟩
      else .error (.illFormed (.illegalStep (String.ofList segment)))

def text : PathStep → String
  | wildcard => "*"
  | name n => n
  | index i => String.ofList ("child[".toList ++ decimalDigits i ++ [']'])
  | attr step => step.raw

def isClassStep : PathStep → Bool
  | name n => isClassName n
  | _ => false

end PathStep

def joinSteps (steps : List PathStep) : String :=
  "/".intercalate (steps.map PathStep.text)

end WidgetLocator
