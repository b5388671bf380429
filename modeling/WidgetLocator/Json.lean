import WidgetLocator.Binary64
import WidgetLocator.Fields

namespace WidgetLocator

/-- A number is kept as an integer when it is written as one and fits 64 bits. -/
inductive JsonNumber where
  | integer (value : Int)
  | real (value : Binary64)
deriving DecidableEq, Repr, Inhabited

/-- The number as a floating-point number. -/
def JsonNumber.toBinary64 : JsonNumber → Binary64
  | .integer n => .ofInt n
  | .real x => x

inductive Json where
  | null
  | bool (value : Bool)
  | number (value : JsonNumber)
  | text (value : String)
  | array (items : List Json)
  | object (fields : List (String × Json))
deriving Repr, Inhabited

/-- A numeral as written: its parts as rows of digits. -/
structure Numeral where
  negative : Bool
  whole : List Char
  fraction : Option (List Char)
  exponent : Option (Bool × List Char)
deriving DecidableEq, Repr, Inhabited

namespace Numeral

/-- One digit more on a number, if it stays below `2 ^ 64`. -/
def pushDigit? (n : Nat) (digit : Char) : Option Nat :=
  let next := 10 * n + digitValue digit
  if next < Nat.pow 2 64 then some next else none

/-- Takes digits as long as the number stays below `2 ^ 64`; the count of digits left over comes
with it. -/
def pushDigits (n : Nat) : List Char → Nat × Nat
  | [] => (n, 0)
  | d :: ds =>
    match pushDigit? n d with
    | some next => pushDigits next ds
    | none => (n, ds.length + 1)

/-- The decimal exponent as written, `none` where it does not fit 32 bits. -/
def writtenExponent? : Option (Bool × List Char) → Option Int
  | none => some 0
  | some (negative, digits) =>
    let n := decimalValue digits
    if n < Nat.pow 2 31 then some (if negative then -n else n) else none

/-- The power of ten as a floating-point number. -/
def powerOfTen (n : Nat) : Binary64 :=
  .ofDecimal false 1 n

/-- Scales a number by a power of ten in steps of at most `10 ^ 308`, rounding after each. A
result beyond the range is refused. -/
def scaleByTen (x : Binary64) (exponent : Int) : Option Binary64 :=
  if x.isZero then some x
  else if exponent > 308 then none
  else if 0 ≤ exponent then
    let scaled := x.timesMagnitude (powerOfTen exponent.toNat)
    if scaled.isInfinite then none else some scaled
  else if -308 ≤ exponent then some (x.overMagnitude (powerOfTen (-exponent).toNat))
  else scaleByTen (x.overMagnitude (powerOfTen 308)) (exponent + 308)
termination_by (-exponent).toNat

/-- The value of a numeral with a point, an exponent or more digits than 64 bits hold: the leading
digits are taken as an integer, rounded, and scaled by a power of ten. -/
def real? (n : Numeral) : Option Binary64 :=
  let (start, dropped) := pushDigits 0 n.whole
  let fraction := n.fraction.getD []
  let (digits, unread) := pushDigits start fraction
  let places : Int := Int.ofNat dropped - Int.ofNat (fraction.length - unread)
  let sign (x : Binary64) : Binary64 := if n.negative then x.negate else x
  match writtenExponent? n.exponent with
  | some e => (scaleByTen (.ofInt digits) (places + e)).map sign
  | none =>
    match n.exponent with
    | some (false, _) => if digits = 0 then some (sign (.zero false)) else none
    | _ => some (sign (.zero false))

/-- The value of a numeral. One without point and exponent is an integer if it fits the unsigned
or, with a sign, the negative signed range of 64 bits; `-0` is the floating-point number. -/
def value? (n : Numeral) : Option JsonNumber :=
  match n.fraction, n.exponent with
  | none, none =>
    let whole := decimalValue n.whole
    if n.negative then
      if 0 < whole ∧ whole ≤ Nat.pow 2 63 then some (.integer (-whole))
      else if whole < Nat.pow 2 64 then some (.real (Binary64.ofInt whole).negate)
      else n.real?.map .real
    else if whole < Nat.pow 2 64 then some (.integer whole)
    else n.real?.map .real
  | _, _ => n.real?.map .real

end Numeral

/-- Reads a row of at least one digit. -/
def readDigits (text : List Char) : Option (List Char × List Char) :=
  match text.span isAsciiDigit with
  | ([], _) => none
  | (digits, rest) => some (digits, rest)

/-- Reads the digits before the point: no zero comes before another digit. -/
def readWhole (text : List Char) : Option (List Char × List Char) :=
  match readDigits text with
  | some ('0' :: _ :: _, _) => none
  | whole => whole

/-- Reads a numeral. -/
def readNumeral (text : List Char) : Option (Numeral × List Char) := do
  let (negative, text) := match text with
    | '-' :: rest => (true, rest)
    | _ => (false, text)
  let (whole, text) ← readWhole text
  let (fraction, text) ← match text with
    | '.' :: rest => (readDigits rest).map fun (digits, rest) => (some digits, rest)
    | _ => some (none, text)
  let (exponent, text) ← match text with
    | 'e' :: rest | 'E' :: rest =>
      match rest with
      | '-' :: rest => (readDigits rest).map fun (digits, rest) => (some (true, digits), rest)
      | '+' :: rest => (readDigits rest).map fun (digits, rest) => (some (false, digits), rest)
      | _ => (readDigits rest).map fun (digits, rest) => (some (false, digits), rest)
    | _ => some (none, text)
  return (⟨negative, whole, fraction, exponent⟩, text)

end WidgetLocator
