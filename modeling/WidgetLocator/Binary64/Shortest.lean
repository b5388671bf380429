import WidgetLocator.Binary64

namespace WidgetLocator
namespace Binary64

/-- The decimal exponent of the leading digit of a positive ratio. -/
def leadingExponent (num den : Nat) : Int :=
  if den ≤ num then Int.ofNat (decimalDigits (num / den)).length - 1
  else
    let d := (decimalDigits (den / num)).length
    if den ≤ num * Nat.pow 10 (d - 1) then 1 - Int.ofNat d else -Int.ofNat d

/-- The ratio `10 ^ e / 2 ^ q` as numerator and denominator. -/
def tenOverTwo (e q : Int) : Nat × Nat :=
  (Nat.pow 10 e.toNat * Nat.pow 2 (-q).toNat, Nat.pow 10 (-e).toNat * Nat.pow 2 q.toNat)

/-- The decimal `c · 10 ^ e` nearest to the number, if it reads back as the number. The reals that
round to `m · 2 ^ q` reach from half a unit below (a quarter at a power of two) to half a unit
above it, ends included when `m` is even; a tie between two decimals goes up. -/
def decimalOnGrid (x : Binary64) (e : Int) : Option (Nat × Int) :=
  let m := x.significand
  let q := x.scale - 2
  let (p, r) := tenOverTwo e q
  let below := if m = Nat.pow 2 52 ∧ -1074 < x.scale then 1 else 2
  let low := (4 * m - below) * r
  let high := (4 * m + 2) * r
  let inside (c : Nat) : Bool :=
    if m % 2 = 0 then low ≤ c * p && c * p ≤ high else low < c * p && c * p < high
  let down := 4 * m * r / p
  let rest := 4 * m * r % p
  if inside down && (2 * rest < p || !inside (down + 1)) then some (down, e)
  else if inside (down + 1) then some (down + 1, e)
  else none

/-- The decimal with the fewest digits that reads back as a positive finite number. The first grid
is that of the next power of ten, which the number may round up to. -/
def shortestDecimal (x : Binary64) : Nat × Int :=
  let (num, den) := x.ratio
  let top := leadingExponent num den + 1
  ((List.range 18).findSome? fun (k : Nat) => x.decimalOnGrid (top - Int.ofNat k)).getD
    (x.significand, 0)

/-- A decimal `digits · 10 ^ exponent` without exponent notation. -/
def plainDecimal (digits : Nat) (exponent : Int) : List Char :=
  if 0 ≤ exponent then decimalDigits digits ++ List.replicate exponent.toNat '0'
  else
    let places := (-exponent).toNat
    let ds := decimalDigits digits
    let padded := List.replicate (places + 1 - ds.length) '0' ++ ds
    padded.take (padded.length - places) ++ '.' :: padded.drop (padded.length - places)

/-- The text of a finite number: its shortest decimal without exponent notation. -/
def plainText (x : Binary64) : List Char :=
  let sign := if x.isNegative then ['-'] else []
  if x.isZero then sign ++ ['0']
  else
    let (digits, exponent) := x.shortestDecimal
    sign ++ plainDecimal digits exponent

end Binary64
end WidgetLocator
