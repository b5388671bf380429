import WidgetLocator.Binary64.Shortest

namespace WidgetLocator

/-- A value in a graph with nodes of a type. -/
inductive Value (ν : Type) where
  | undefined
  | null
  | bool (value : Bool)
  | number (value : Binary64)
  | text (value : String)
  | object (node : ν)
deriving DecidableEq, Repr, Inhabited

/-- An integer cut down to the range of signed 64 bits. -/
def clampToInt64 (n : Int) : Int :=
  max (-(Nat.pow 2 63 : Int)) (min n (Nat.pow 2 63 - 1))

/-- The text of a number: an integral one below `10 ^ 21` as an integer within 64 bits, any other
one as a plain decimal. -/
def numberText (x : Binary64) : String :=
  if x.isNaN then "NaN"
  else if x.isInfinite then if x.isNegative then "-Infinity" else "Infinity"
  else
    match x.integer? with
    | some n =>
      if n.natAbs < Nat.pow 10 21 then String.ofList (integerDigits (clampToInt64 n))
      else String.ofList x.plainText
    | none => String.ofList x.plainText

namespace Value

variable {ν : Type}

def object? : Value ν → Option ν
  | object node => some node
  | _ => none

theorem eq_object_of_object? {value : Value ν} {node : ν} (h : value.object? = some node) :
    value = .object node := by
  cases value <;> simp_all [object?]

def isTruthy : Value ν → Bool
  | undefined => false
  | null => false
  | bool b => b
  | number x => !x.isZero && !x.isNaN
  | text t => !t.isEmpty
  | object _ => true

/-- The text of a value that is no object. -/
def scalarText : Value ν → Option String
  | undefined => some "undefined"
  | null => some "null"
  | bool b => some (if b then "true" else "false")
  | number x => some (numberText x)
  | text t => some t
  | object _ => none

end Value

end WidgetLocator
