import WidgetLocator.Text

namespace WidgetLocator

/-- A number in the 64-bit binary interchange format, given by its bits. -/
structure Binary64 where
  bits : UInt64
deriving DecidableEq, Repr, Inhabited

namespace Binary64

/-- The bits without the sign bit. -/
def magnitudeBits (x : Binary64) : Nat :=
  x.bits.toNat % Nat.pow 2 63

/-- The magnitude bits of infinity. -/
def infinityBits : Nat :=
  0x7FF * Nat.pow 2 52

def isNegative (x : Binary64) : Bool :=
  Nat.pow 2 63 ≤ x.bits.toNat

def isNaN (x : Binary64) : Bool :=
  infinityBits < x.magnitudeBits

def isInfinite (x : Binary64) : Bool :=
  x.magnitudeBits == infinityBits

def isFinite (x : Binary64) : Bool :=
  x.magnitudeBits < infinityBits

def isZero (x : Binary64) : Bool :=
  x.magnitudeBits == 0

/-- The significand of a finite number: its magnitude is the significand times a power of two. -/
def significand (x : Binary64) : Nat :=
  let fraction := x.magnitudeBits % Nat.pow 2 52
  if x.magnitudeBits / Nat.pow 2 52 = 0 then fraction else Nat.pow 2 52 + fraction

/-- The power of two that scales the significand. -/
def scale (x : Binary64) : Int :=
  let exponent : Nat := x.magnitudeBits / Nat.pow 2 52
  if exponent = 0 then -1074 else Int.ofNat exponent - 1075

/-- The number with a sign and magnitude bits; too large a magnitude is infinite. -/
def ofMagnitude (negative : Bool) (magnitude : Nat) : Binary64 :=
  let m := min magnitude infinityBits
  ⟨UInt64.ofNat (if negative then Nat.pow 2 63 + m else m)⟩

def nan : Binary64 :=
  ⟨0x7FF8000000000000⟩

def infinity (negative : Bool) : Binary64 :=
  ofMagnitude negative infinityBits

def zero (negative : Bool) : Binary64 :=
  ofMagnitude negative 0

def negate (x : Binary64) : Binary64 :=
  ⟨x.bits ^^^ 0x8000000000000000⟩

/-- The ratio of two numbers times a power of two, as numerator and denominator. -/
def scaledRatio (num den : Nat) (q : Int) : Nat × Nat :=
  if 0 ≤ q then (num * Nat.pow 2 q.toNat, den) else (num, den * Nat.pow 2 (-q).toNat)

/-- The integer nearest to a ratio; a tie goes to the even one. -/
def roundHalfEven (num den : Nat) : Nat :=
  let quotient := num / den
  let rest := num % den
  if 2 * rest < den then quotient
  else if den < 2 * rest then quotient + 1
  else quotient + quotient % 2

/-- The power of two on whose grid a positive ratio is rounded: 53 bits, or fewer at the bottom of
the range. -/
def gridOf (num den : Nat) : Int :=
  let guess : Int := (num.log2 : Int) - (den.log2 : Int) - 52
  let (n, d) := scaledRatio num den (-guess)
  max (if n < d * Nat.pow 2 52 then guess - 1 else guess) (-1074)

/-- The number nearest to a ratio; a tie goes to the even significand, and a ratio beyond the
range is infinite. -/
def ofRatio (negative : Bool) (num den : Nat) : Binary64 :=
  if num = 0 then zero negative
  else
    let q := gridOf num den
    let (n, d) := scaledRatio num den (-q)
    ofMagnitude negative ((q + 1074).toNat * Nat.pow 2 52 + roundHalfEven n d)

/-- The magnitude of a finite number as a ratio. -/
def ratio (x : Binary64) : Nat × Nat :=
  if 0 ≤ x.scale then (x.significand * Nat.pow 2 x.scale.toNat, 1)
  else (x.significand, Nat.pow 2 (-x.scale).toNat)

/-- The number nearest to an integer. -/
def ofInt (n : Int) : Binary64 :=
  ofRatio (n < 0) n.natAbs 1

/-- The number nearest to `digits · 10 ^ exponent`. Exponents far outside the range are settled
without computing the power. -/
def ofDecimal (negative : Bool) (digits : Nat) (exponent : Int) : Binary64 :=
  let length : Int := (decimalDigits digits).length
  if digits = 0 then zero negative
  else if 400 < length + exponent then infinity negative
  else if length + exponent < -400 then zero negative
  else if 0 ≤ exponent then ofRatio negative (digits * Nat.pow 10 exponent.toNat) 1
  else ofRatio negative digits (Nat.pow 10 (-exponent).toNat)

/-- The rounded product of the magnitudes of two finite numbers, with the first one's sign. -/
def timesMagnitude (x y : Binary64) : Binary64 :=
  ofRatio x.isNegative (x.ratio.1 * y.ratio.1) (x.ratio.2 * y.ratio.2)

/-- The rounded quotient of the magnitudes of two finite numbers, with the first one's sign. -/
def overMagnitude (x y : Binary64) : Binary64 :=
  ofRatio x.isNegative (x.ratio.1 * y.ratio.2) (x.ratio.2 * y.ratio.1)

/-- The integral value of a finite number that has one. -/
def integer? (x : Binary64) : Option Int :=
  let (num, den) := x.ratio
  if x.isFinite && num % den == 0 then
    some (if x.isNegative then -(num / den : Nat) else (num / den : Nat))
  else none

end Binary64

end WidgetLocator
