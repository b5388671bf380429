import WidgetLocator.Binary64
import Mathlib.Algebra.Order.Field.Power
import Mathlib.Data.Rat.Cast.Order
import Mathlib.Tactic.FieldSimp
import Mathlib.Tactic.Linarith
import Mathlib.Tactic.NormNum
import Mathlib.Tactic.Ring

namespace WidgetLocator
namespace Binary64

/-- The exact size of a finite number. -/
def size (x : Binary64) : ℚ :=
  x.significand * 2 ^ x.scale

/-- A size with a sign. -/
def signed (negative : Bool) (size : ℚ) : ℚ :=
  if negative then -size else size

/-- The exact value of a finite number. -/
def value (x : Binary64) : ℚ :=
  signed x.isNegative x.size

theorem abs_signed (negative : Bool) (r : ℚ) : |signed negative r| = |r| := by
  cases negative
  · rfl
  · exact abs_neg r

theorem signed_sub (negative : Bool) (a b : ℚ) :
    signed negative a - signed negative b = signed negative (a - b) := by
  cases negative
  · rfl
  · exact (neg_sub_neg a b).trans (neg_sub a b).symm

theorem signed_not (negative : Bool) (r : ℚ) : signed (!negative) r = signed negative (-r) := by
  cases negative
  · rfl
  · exact (neg_neg r).symm

section Fields

variable (x : Binary64)

theorem significand_lt : x.significand < 2 ^ 53 := by
  have fraction : x.magnitudeBits % Nat.pow 2 52 < Nat.pow 2 52 := Nat.mod_lt _ (by decide)
  have power : Nat.pow 2 52 = 4503599627370496 := rfl
  simp only [significand]
  split <;> omega

theorem neg_1074_le_scale : -1074 ≤ x.scale := by
  have power : Nat.pow 2 52 = 4503599627370496 := rfl
  simp only [scale, Int.ofNat_eq_natCast, power]
  split <;> omega

theorem size_nonneg : 0 ≤ x.size := by
  unfold size
  positivity

theorem abs_value : |x.value| = x.size := by
  rw [value, abs_signed, abs_of_nonneg x.size_nonneg]

end Fields

section Bits

variable {m : Nat} {q : Int}

theorem toNat_ofMagnitude (negative : Bool) (m : Nat) :
    (ofMagnitude negative m).bits.toNat =
      (if negative then Nat.pow 2 63 else 0) + min m infinityBits := by
  have bound : infinityBits = 9218868437227405312 := rfl
  have power : Nat.pow 2 63 = 9223372036854775808 := rfl
  cases negative <;> simp [ofMagnitude] <;> omega

theorem magnitudeBits_ofMagnitude (negative : Bool) (m : Nat) :
    (ofMagnitude negative m).magnitudeBits = min m infinityBits := by
  have bound : infinityBits = 9218868437227405312 := rfl
  have power : Nat.pow 2 63 = 9223372036854775808 := rfl
  rw [magnitudeBits, toNat_ofMagnitude]
  cases negative <;> simp <;> omega

theorem isNegative_ofMagnitude (negative : Bool) (m : Nat) :
    (ofMagnitude negative m).isNegative = negative := by
  have bound : infinityBits = 9218868437227405312 := rfl
  have power : Nat.pow 2 63 = 9223372036854775808 := rfl
  rw [isNegative, toNat_ofMagnitude]
  cases negative
  · simp
    omega
  · simp

theorem isFinite_ofMagnitude (negative : Bool) (m : Nat) :
    (ofMagnitude negative m).isFinite = true ↔ m < infinityBits := by
  rw [isFinite, magnitudeBits_ofMagnitude, decide_eq_true_iff]
  omega

/-- A significand on the grid of a power of two. One of fewer than 53 bits is on the lowest grid, and one
that has just become too large for 53 bits is the first on the next grid. -/
structure OnGrid (m : Nat) (q : Int) : Prop where
  bottom : -1074 ≤ q
  full : 2 ^ 52 ≤ m ∨ q = -1074
  bounded : m ≤ 2 ^ 53

/-- The magnitude bits of a significand on a grid. -/
def gridBits (m : Nat) (q : Int) : Nat :=
  (q + 1074).toNat * Nat.pow 2 52 + m

theorem fields_of_gridBits (negative : Bool) (grid : OnGrid m q) (fits : gridBits m q < infinityBits) :
    let x := ofMagnitude negative (gridBits m q)
    (x.significand = m ∧ x.scale = q) ∨
      (m = 2 ^ 53 ∧ x.significand = 2 ^ 52 ∧ x.scale = q + 1) := by
  obtain ⟨bottom, full, bounded⟩ := grid
  obtain ⟨k, rfl⟩ : ∃ k : Nat, q = k - 1074 := ⟨(q + 1074).toNat, by omega⟩
  have power : Nat.pow 2 52 = 4503599627370496 := rfl
  have bits : (ofMagnitude negative (gridBits m (k - 1074))).magnitudeBits =
      k * 4503599627370496 + m := by
    rw [magnitudeBits_ofMagnitude, Nat.min_eq_left fits.le, gridBits, power]
    simp
  simp only [significand, scale, bits, power, Int.ofNat_eq_natCast]
  -- the exponent field is that of the grid, one more at full length, two more beyond it
  rcases lt_or_ge m (2 ^ 52) with small | large
  · left
    split <;> omega
  · rcases lt_or_eq_of_le bounded with below | rfl
    · left
      split <;> omega
    · right
      split <;> omega

theorem size_of_gridBits (negative : Bool) (grid : OnGrid m q) (fits : gridBits m q < infinityBits) :
    (ofMagnitude negative (gridBits m q)).size = m * 2 ^ q := by
  rw [size]
  rcases fields_of_gridBits negative grid fits with ⟨hm, hq⟩ | ⟨rfl, hm, hq⟩
  · rw [hm, hq]
  · rw [hm, hq, zpow_add_one₀ two_ne_zero]
    push_cast
    ring

theorem even_significand_of_gridBits (negative : Bool) (grid : OnGrid m q)
    (fits : gridBits m q < infinityBits) (even : m % 2 = 0) :
    (ofMagnitude negative (gridBits m q)).significand % 2 = 0 := by
  rcases fields_of_gridBits negative grid fits with ⟨hm, -⟩ | ⟨-, hm, -⟩
  · rwa [hm]
  · rw [hm]
    rfl

theorem onGrid_zero : OnGrid 0 (-1074) :=
  ⟨le_rfl, .inr rfl, Nat.zero_le _⟩

theorem zero_eq (negative : Bool) : zero negative = ofMagnitude negative (gridBits 0 (-1074)) :=
  rfl

theorem size_zero (negative : Bool) : (zero negative).size = 0 := by
  rw [zero_eq, size_of_gridBits negative onGrid_zero (by decide), Nat.cast_zero, zero_mul]

end Bits

section Grids

variable {x : Binary64} {q : Int}

/-- A number is a multiple of every unit that is not larger than that of its own grid. -/
theorem size_multiple_of_le_scale (h : q ≤ x.scale) : ∃ j : Nat, x.size = j * 2 ^ q := by
  obtain ⟨k, hk⟩ : ∃ k : Nat, x.scale = q + k := ⟨(x.scale - q).toNat, by omega⟩
  refine ⟨x.significand * 2 ^ k, ?_⟩
  rw [size, hk, zpow_add₀ two_ne_zero, zpow_natCast]
  push_cast
  ring

/-- A number whose own unit is smaller has fewer than 53 bits before the grid. -/
theorem size_lt_of_scale_lt (h : x.scale < q) : x.size < 2 ^ 52 * 2 ^ q := by
  have bound : (x.significand : ℚ) < 2 ^ 53 := by exact_mod_cast x.significand_lt
  have finer : (2 : ℚ) ^ x.scale ≤ 2 ^ (q - 1) := zpow_le_zpow_right₀ one_le_two (by omega)
  calc x.size < 2 ^ 53 * 2 ^ x.scale := mul_lt_mul_of_pos_right bound (by positivity)
    _ ≤ 2 ^ 53 * 2 ^ (q - 1) := by gcongr
    _ = 2 ^ 52 * 2 ^ q := by rw [zpow_sub_one₀ two_ne_zero]; ring

theorem value_multiple_of_le (h : 2 ^ 52 * 2 ^ q ≤ |x.value|) : ∃ j : Int, x.value = j * 2 ^ q := by
  rw [abs_value] at h
  have coarse : q ≤ x.scale := by
    by_contra finer
    exact absurd (size_lt_of_scale_lt (not_le.mp finer)) (not_lt.mpr h)
  obtain ⟨j, hj⟩ := size_multiple_of_le_scale coarse
  rw [value, hj, signed]
  split
  · exact ⟨-j, by push_cast; ring⟩
  · exact ⟨j, by push_cast; ring⟩

end Grids

section Integers

variable {x : Binary64} {v : Int}

theorem ratio_pos (x : Binary64) : 0 < x.ratio.2 := by
  unfold ratio
  split
  · exact Nat.one_pos
  · exact Nat.pow_pos (by decide)

theorem ratio_eq_size (x : Binary64) : (x.ratio.1 / x.ratio.2 : ℚ) = x.size := by
  unfold ratio size
  split
  next h =>
    obtain ⟨k, hk⟩ := Int.eq_ofNat_of_zero_le h
    rw [hk]
    simp
  next h =>
    obtain ⟨k, hk⟩ := Int.exists_eq_neg_ofNat (not_le.mp h).le
    rw [hk]
    simp [div_eq_mul_inv]

theorem integer?_of_value (finite : x.isFinite = true) (hv : x.value = v) : x.integer? = some v := by
  have size : x.size = v.natAbs := by
    rw [← abs_value, hv, Nat.cast_natAbs, Int.cast_abs]
  have multiple : x.ratio.1 = v.natAbs * x.ratio.2 := by
    have h := ratio_eq_size x
    have nonzero : (x.ratio.2 : ℚ) ≠ 0 := by exact_mod_cast (ratio_pos x).ne'
    rw [size, div_eq_iff nonzero] at h
    exact_mod_cast h
  have signs : v = if x.isNegative then -(v.natAbs : Int) else v.natAbs := by
    rw [value, size, signed, ← Int.cast_natCast, ← Int.cast_neg] at hv
    split at hv
    next negative => rw [if_pos negative, Int.cast_inj.mp hv]
    next positive => rw [if_neg positive, Int.cast_inj.mp hv]
  simp only [integer?, finite, multiple, Nat.mul_mod_left, beq_self_eq_true, Bool.and_self, if_true,
    Nat.mul_div_cancel _ (ratio_pos x)]
  exact congrArg some signs.symm

end Integers

end Binary64
end WidgetLocator
