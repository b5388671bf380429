import WidgetLocator.Proofs.Binary64.Value

namespace WidgetLocator
namespace Binary64

/-- A finite number is nearest to a value: no finite one is nearer, and if another one is as near, it is the
even one of the two. -/
structure IsNearest (y : Binary64) (r : ℚ) : Prop where
  finite : y.isFinite = true
  closest : ∀ z : Binary64, z.isFinite = true → |y.value - r| ≤ |z.value - r|
  even : ∀ z : Binary64, z.isFinite = true → |z.value - r| = |y.value - r| → z.value ≠ y.value →
    y.significand % 2 = 0

/-- Nothing else is nearest to the value of a number. -/
theorem IsNearest.value_eq {x y : Binary64} {r : ℚ} (nearest : y.IsNearest r) (finite : x.isFinite = true)
    (hx : x.value = r) : y.value = r := by
  have distance := nearest.closest x finite
  rw [hx, sub_self, abs_zero] at distance
  exact sub_eq_zero.mp (abs_nonpos_iff.mp distance)

section HalfEven

theorem roundHalfEven_cases (num den : Nat) :
    (roundHalfEven num den = num / den ∧ 2 * (num % den) ≤ den ∨
      roundHalfEven num den = num / den + 1 ∧ den ≤ 2 * (num % den)) ∧
    (2 * (num % den) = den → roundHalfEven num den % 2 = 0) := by
  simp only [roundHalfEven]
  split <;> try split
  all_goals omega

theorem abs_roundHalfEven_sub (num : Nat) {den : Nat} (hd : 0 < den) :
    |(roundHalfEven num den : ℚ) - num / den| ≤ 1 / 2 ∧
      (|(roundHalfEven num den : ℚ) - num / den| = 1 / 2 → roundHalfEven num den % 2 = 0) := by
  have positive : (0 : ℚ) < den := by exact_mod_cast hd
  obtain ⟨f, hf⟩ : ∃ f : ℚ, f = (num % den : Nat) / den := ⟨_, rfl⟩
  have parts : (num / den : ℚ) = (num / den : Nat) + f := by
    rw [hf, eq_comm, add_div' _ _ _ positive.ne', div_left_inj' positive.ne']
    exact_mod_cast Nat.div_add_mod' num den
  have nonneg : 0 ≤ f := hf ▸ div_nonneg (Nat.cast_nonneg _) positive.le
  have below : f < 1 := hf ▸ (div_lt_one₀ positive).mpr (by exact_mod_cast Nat.mod_lt num hd)
  have half (r : ℚ) : r = 1 / 2 → f = r → 2 * (num % den) = den := by
    rintro rfl h
    rw [hf, div_eq_div_iff positive.ne' two_ne_zero, one_mul] at h
    rw [mul_comm]
    exact_mod_cast h
  obtain ⟨⟨hm, rest⟩ | ⟨hm, rest⟩, even⟩ := roundHalfEven_cases num den
  · have low : f ≤ 1 / 2 := by
      rw [hf, div_le_div_iff₀ positive two_pos, one_mul, mul_comm]
      exact_mod_cast rest
    have distance : |(roundHalfEven num den : ℚ) - num / den| = f := by
      rw [parts, hm, sub_add_cancel_left, abs_neg, abs_of_nonneg nonneg]
    rw [distance]
    exact ⟨low, fun tie => even (half f tie rfl)⟩
  · have high : 1 / 2 ≤ f := by
      rw [hf, div_le_div_iff₀ two_pos positive, one_mul, mul_comm _ (2 : ℚ)]
      exact_mod_cast rest
    have distance : |(roundHalfEven num den : ℚ) - num / den| = 1 - f := by
      rw [parts, hm, Nat.cast_succ, add_sub_add_left_eq_sub, abs_of_pos (sub_pos.mpr below)]
    rw [distance]
    exact ⟨by linarith, fun tie => even (half (1 / 2) rfl (by linarith))⟩

theorem nearest_of_half {m : Nat} {r : ℚ} (half : |(m : ℚ) - r| ≤ 1 / 2) (j : Nat) :
    |(m : ℚ) - r| ≤ |(j : ℚ) - r| ∧ (|(j : ℚ) - r| = |(m : ℚ) - r| → j ≠ m → |(m : ℚ) - r| = 1 / 2) := by
  by_cases same : j = m
  · rw [same]
    exact ⟨le_rfl, fun _ h => absurd rfl h⟩
  · have apart : 1 ≤ |(j : ℚ) - m| := by
      have := Int.one_le_abs (sub_ne_zero.mpr (Nat.cast_injective.ne same : (j : ℤ) ≠ m))
      exact_mod_cast this
    have triangle := abs_sub_le (j : ℚ) r m
    rw [abs_sub_comm r] at triangle
    exact ⟨by linarith, fun tie _ => by linarith⟩

end HalfEven

section Grid

variable {num den : Nat}

theorem abs_mul_zpow_sub (a r : ℚ) (q : Int) : |a * 2 ^ q - r| = |a - r / 2 ^ q| * 2 ^ q := by
  have unit : (0 : ℚ) < 2 ^ q := by positivity
  rw [← abs_of_pos unit, ← abs_mul, abs_of_pos unit, sub_mul, div_mul_cancel₀ _ unit.ne']

/-- No number is nearer to a value than a multiple of a unit that is nearest to it, provided that the
numbers with smaller units are all too small. -/
theorem nearest_on_grid {m : Nat} {q : Int} {r : ℚ} (half : |(m : ℚ) - r / 2 ^ q| ≤ 1 / 2)
    (full : q = -1074 ∨ 2 ^ 52 * 2 ^ q ≤ r) (z : Binary64) :
    |m * 2 ^ q - r| ≤ |z.size - r| ∧
      (|z.size - r| = |m * 2 ^ q - r| → z.size ≠ m * 2 ^ q → |(m : ℚ) - r / 2 ^ q| = 1 / 2) := by
  have unit : (0 : ℚ) < 2 ^ q := by positivity
  rcases le_or_gt q z.scale with coarse | finer
  · obtain ⟨j, hj⟩ := size_multiple_of_le_scale coarse
    obtain ⟨near, tie⟩ := nearest_of_half half j
    rw [hj, abs_mul_zpow_sub, abs_mul_zpow_sub]
    refine ⟨mul_le_mul_of_nonneg_right near unit.le, fun equal other => tie ?_ ?_⟩
    · exact mul_right_cancel₀ unit.ne' equal
    · rintro rfl
      exact other rfl
  · -- the least number of 53 bits on the grid is between them
    have bottom := z.neg_1074_le_scale
    have large : 2 ^ 52 * 2 ^ q ≤ r := full.resolve_left (by omega)
    have small := size_lt_of_scale_lt finer
    obtain ⟨near, -⟩ := nearest_of_half half (2 ^ 52)
    have between : |(m : ℚ) * 2 ^ q - r| ≤ r - 2 ^ 52 * 2 ^ q := by
      rw [← abs_of_nonneg (sub_nonneg.mpr large), abs_sub_comm r, abs_mul_zpow_sub, abs_mul_zpow_sub]
      exact_mod_cast mul_le_mul_of_nonneg_right near unit.le
    have far : |z.size - r| = r - z.size := by
      rw [abs_sub_comm, abs_of_pos (by linarith)]
    rw [far]
    exact ⟨by linarith, fun equal => absurd equal (by linarith : _ < _).ne'⟩

theorem scaledRatio_pos (num : Nat) (hd : 0 < den) (q : Int) : 0 < (scaledRatio num den q).2 := by
  unfold scaledRatio
  split
  · exact hd
  · exact Nat.mul_pos hd (Nat.pow_pos (by decide))

theorem scaledRatio_eq (num den : Nat) (q : Int) :
    ((scaledRatio num den q).1 / (scaledRatio num den q).2 : ℚ) = num / den * 2 ^ q := by
  unfold scaledRatio
  split
  next h =>
    obtain ⟨k, rfl⟩ := Int.eq_ofNat_of_zero_le h
    simp [mul_div_right_comm]
  next h =>
    obtain ⟨k, rfl⟩ := Int.exists_eq_neg_ofNat (not_le.mp h).le
    simp only [neg_neg, Int.toNat_natCast, zpow_neg, zpow_natCast, Nat.pow_eq, Nat.cast_mul, Nat.cast_pow,
      Nat.cast_ofNat, ← div_eq_mul_inv, div_div]

theorem log2_bounds {n : Nat} (hn : 0 < n) : (2 : ℚ) ^ n.log2 ≤ n ∧ (n : ℚ) < 2 ^ (n.log2 + 1) := by
  constructor
  · exact_mod_cast Nat.log2_self_le hn.ne'
  · exact_mod_cast Nat.lt_log2_self

/-- The leading bits of numerator and denominator tell the size of a ratio up to a factor of four. -/
theorem ratio_bounds (hn : 0 < num) (hd : 0 < den) :
    2 ^ 51 * 2 ^ ((num.log2 : Int) - den.log2 - 52) ≤ (num / den : ℚ) ∧
      (num / den : ℚ) < 2 ^ 53 * 2 ^ ((num.log2 : Int) - den.log2 - 52) := by
  obtain ⟨numLow, numHigh⟩ := log2_bounds hn
  obtain ⟨denLow, denHigh⟩ := log2_bounds hd
  have positive : (0 : ℚ) < den := by exact_mod_cast hd
  have power : (2 : ℚ) ^ ((num.log2 : Int) - den.log2 - 52) = 2 ^ num.log2 / 2 ^ den.log2 / 2 ^ 52 := by
    rw [zpow_sub₀ two_ne_zero, zpow_sub₀ two_ne_zero]
    rfl
  rw [power]
  constructor
  · calc (2 : ℚ) ^ 51 * (2 ^ num.log2 / 2 ^ den.log2 / 2 ^ 52) = 2 ^ num.log2 / 2 ^ (den.log2 + 1) := by
          rw [pow_succ]; ring
      _ ≤ num / den := div_le_div₀ (Nat.cast_nonneg _) numLow positive denHigh.le
  · calc (num / den : ℚ) < 2 ^ (num.log2 + 1) / 2 ^ den.log2 :=
          div_lt_div₀ numHigh denLow (by positivity) (by positivity)
      _ = 2 ^ 53 * (2 ^ num.log2 / 2 ^ den.log2 / 2 ^ 52) := by rw [pow_succ]; ring

/-- The power of two at which a ratio has 53 bits. -/
theorem exists_exact_grid (hn : 0 < num) (hd : 0 < den) :
    ∃ e : Int, gridOf num den = max e (-1074) ∧ 2 ^ 52 * 2 ^ e ≤ (num / den : ℚ) ∧
      (num / den : ℚ) < 2 ^ 53 * 2 ^ e := by
  obtain ⟨low, high⟩ := ratio_bounds hn hd
  unfold gridOf
  generalize (num.log2 : Int) - den.log2 - 52 = guess at low high ⊢
  obtain ⟨n, d, hs⟩ : ∃ n d, scaledRatio num den (-guess) = (n, d) := ⟨_, _, rfl⟩
  have positive : (0 : ℚ) < d := by
    have := scaledRatio_pos num hd (-guess)
    rw [hs] at this
    exact_mod_cast this
  have few : n < d * Nat.pow 2 52 ↔ (num / den : ℚ) < 2 ^ 52 * 2 ^ guess := by
    have ratio := scaledRatio_eq num den (-guess)
    rw [hs, zpow_neg, ← div_eq_mul_inv, eq_div_iff (by positivity)] at ratio
    rw [← ratio, mul_lt_mul_iff_of_pos_right (by positivity), div_lt_iff₀ positive, mul_comm d]
    exact_mod_cast Iff.rfl
  simp only [hs, few]
  refine ⟨_, rfl, ?_⟩
  split
  next less =>
    rw [zpow_sub_one₀ two_ne_zero]
    constructor <;> linarith
  next more => exact ⟨not_lt.mp more, high⟩

/-- A ratio has 53 bits on its grid, or fewer if it is the lowest one. -/
theorem gridOf_spec (hn : 0 < num) (hd : 0 < den) :
    -1074 ≤ gridOf num den ∧ (num / den : ℚ) < 2 ^ 53 * 2 ^ gridOf num den ∧
      (gridOf num den = -1074 ∨ 2 ^ 52 * 2 ^ gridOf num den ≤ (num / den : ℚ)) := by
  obtain ⟨e, he, low, high⟩ := exists_exact_grid hn hd
  rw [he]
  rcases le_total (-1074) e with above | below
  · rw [max_eq_left above]
    exact ⟨above, high, .inr low⟩
  · rw [max_eq_right below]
    refine ⟨le_rfl, high.trans_le ?_, .inl rfl⟩
    gcongr
    exact one_le_two

end Grid

section Rounded

variable {negative : Bool} {num den : Nat}

/-- The significand to which a ratio is rounded. -/
def gridSignificand (num den : Nat) : Nat :=
  roundHalfEven (scaledRatio num den (-gridOf num den)).1 (scaledRatio num den (-gridOf num den)).2

theorem ofRatio_eq (negative : Bool) (hn : 0 < num) : ofRatio negative num den =
    ofMagnitude negative (gridBits (gridSignificand num den) (gridOf num den)) := by
  rcases hs : scaledRatio num den (-gridOf num den) with ⟨n, d⟩
  rw [gridSignificand, hs, ofRatio, if_neg hn.ne']
  -- the grid is not to be evaluated, so that its pair is put in by hand
  conv_lhs =>
    zeta
    rw [hs]
  rfl

theorem abs_gridSignificand_sub (num : Nat) (hd : 0 < den) :
    |(gridSignificand num den : ℚ) - num / den / 2 ^ gridOf num den| ≤ 1 / 2 ∧
      (|(gridSignificand num den : ℚ) - num / den / 2 ^ gridOf num den| = 1 / 2 →
        gridSignificand num den % 2 = 0) := by
  have scaled := scaledRatio_eq num den (-gridOf num den)
  rw [zpow_neg, ← div_eq_mul_inv] at scaled
  rw [← scaled, gridSignificand]
  exact abs_roundHalfEven_sub _ (scaledRatio_pos num hd _)

theorem onGrid_gridSignificand (hn : 0 < num) (hd : 0 < den) :
    OnGrid (gridSignificand num den) (gridOf num den) := by
  obtain ⟨bottom, high, full⟩ := gridOf_spec hn hd
  obtain ⟨half, -⟩ := abs_gridSignificand_sub num hd
  have unit : (0 : ℚ) < 2 ^ gridOf num den := by positivity
  rw [← div_lt_iff₀ unit] at high
  rw [← le_div_iff₀ unit] at full
  obtain ⟨below, above⟩ := abs_le.mp half
  -- the half unit that is left cannot reach another integer
  refine ⟨bottom, full.symm.imp_left fun full => ?_, ?_⟩
  · by_contra less
    have : (gridSignificand num den : ℚ) + 1 ≤ 2 ^ 52 := by exact_mod_cast not_le.mp less
    linarith
  · by_contra more
    have : (2 : ℚ) ^ 53 + 1 ≤ gridSignificand num den := by exact_mod_cast not_le.mp more
    linarith

/-- A number whose size is nearest among all sizes is nearest among all numbers. -/
theorem IsNearest.of_size {y : Binary64} {r : ℚ} (finite : y.isFinite = true)
    (sign : y.isNegative = negative) (nonneg : 0 ≤ r)
    (closest : ∀ z : Binary64, |y.size - r| ≤ |z.size - r|)
    (even : ∀ z : Binary64, |z.size - r| = |y.size - r| → z.size ≠ y.size → y.significand % 2 = 0) :
    y.IsNearest (signed negative r) := by
  have distance : |y.value - signed negative r| = |y.size - r| := by
    rw [value, sign, signed_sub, abs_signed]
  have farther (z : Binary64) : |z.size - r| ≤ |z.value - signed negative r| := by
    have := abs_abs_sub_abs_le_abs_sub z.value (signed negative r)
    rwa [abs_value, abs_signed, abs_of_nonneg nonneg] at this
  refine ⟨finite, fun z _ => ?_, fun z _ tie other => ?_⟩
  · rw [distance]
    exact (closest z).trans (farther z)
  · rw [distance] at tie
    have equal : |z.size - r| = |y.size - r| := le_antisymm ((farther z).trans_eq tie) (closest z)
    refine even z equal fun same => other ?_
    -- with the other sign, a number of this size can be as near only if it is zero
    have opposite : z.isNegative = !negative := by
      refine Bool.eq_not.mpr fun agree => other ?_
      rw [value, value, sign, agree, same]
    have turned : z.value = signed negative (-y.size) := by
      rw [value, opposite, same, signed_not]
    have near := closest (zero false)
    rw [turned, signed_sub, abs_signed, ← neg_add', abs_neg,
      abs_of_nonneg (add_nonneg y.size_nonneg nonneg)] at tie
    rw [← tie, size_zero, zero_sub, abs_neg, abs_of_nonneg nonneg] at near
    have none : y.size = 0 := le_antisymm (by linarith) y.size_nonneg
    rw [turned, value, sign, none, neg_zero]

/-- A ratio is rounded to the number that is nearest to it, unless that is beyond the range. -/
theorem ofRatio_isNearest (hd : 0 < den) (finite : (ofRatio negative num den).isFinite = true) :
    (ofRatio negative num den).IsNearest (signed negative (num / den)) := by
  have nonneg : (0 : ℚ) ≤ num / den := div_nonneg (Nat.cast_nonneg _) (Nat.cast_nonneg _)
  rcases Nat.eq_zero_or_pos num with rfl | hn
  · have zeros : ofRatio negative 0 den = zero negative := if_pos rfl
    rw [zeros] at finite ⊢
    refine .of_size finite (isNegative_ofMagnitude negative 0) nonneg (fun z => ?_) fun _ _ _ => ?_
    · rw [size_zero, Nat.cast_zero, zero_div, sub_self, abs_zero]
      exact abs_nonneg _
    · rw [zero_eq]
      exact even_significand_of_gridBits negative onGrid_zero (by decide) rfl
  · have bits : ofRatio negative num den = _ := ofRatio_eq negative hn
    rw [bits] at finite ⊢
    have fits := (isFinite_ofMagnitude _ _).mp finite
    have grid := onGrid_gridSignificand hn hd
    obtain ⟨-, -, full⟩ := gridOf_spec hn hd
    obtain ⟨half, even⟩ := abs_gridSignificand_sub num hd
    refine .of_size finite (isNegative_ofMagnitude _ _) nonneg ?_ ?_
    all_goals
      intro z
      rw [size_of_gridBits negative grid fits]
      obtain ⟨closest, tie⟩ := nearest_on_grid half full z
    · exact closest
    · exact fun equal other =>
        even_significand_of_gridBits negative grid fits (even (tie equal other))

/-- A ratio below `2 ^ 1023` is in the range. -/
theorem isFinite_ofRatio (negative : Bool) (hd : 0 < den) (small : (num / den : ℚ) < 2 ^ (1023 : Int)) :
    (ofRatio negative num den).isFinite = true := by
  rcases Nat.eq_zero_or_pos num with rfl | hn
  · rw [ofRatio, if_pos rfl, zero, isFinite_ofMagnitude]
    decide
  · have bounded := (onGrid_gridSignificand hn hd).bounded
    obtain ⟨-, -, full⟩ := gridOf_spec hn hd
    have low : gridOf num den ≤ 970 := by
      refine full.elim (fun bottom => by omega) fun full => ?_
      have power : (2 : ℚ) ^ (52 + gridOf num den) < 2 ^ (1023 : Int) := by
        rw [zpow_add₀ two_ne_zero]
        exact full.trans_lt small
      have := (zpow_lt_zpow_iff_right₀ one_lt_two).mp power
      omega
    rw [ofRatio_eq negative hn, isFinite_ofMagnitude, gridBits]
    have power : Nat.pow 2 52 = 4503599627370496 := rfl
    have bound : infinityBits = 9218868437227405312 := rfl
    rw [power, bound]
    omega

end Rounded

/-- The number nearest to an integer. -/
theorem ofInt_isNearest {n : Int} (small : |(n : ℚ)| < 2 ^ (1023 : Int)) : (ofInt n).IsNearest n := by
  have ratio : (n.natAbs / (1 : Nat) : ℚ) = |(n : ℚ)| := by
    rw [Nat.cast_one, div_one, Nat.cast_natAbs, Int.cast_abs]
  have finite := isFinite_ofRatio (decide (n < 0)) Nat.one_pos (ratio ▸ small)
  have nearest := ofRatio_isNearest Nat.one_pos finite
  rw [ratio] at nearest
  have back : signed (decide (n < 0)) |(n : ℚ)| = n := by
    rw [signed]
    split
    next negative =>
      have : (n : ℚ) < 0 := by exact_mod_cast of_decide_eq_true negative
      rw [abs_of_neg this, neg_neg]
    next positive =>
      have : (0 : ℚ) ≤ n := by exact_mod_cast not_lt.mp fun h => positive (decide_eq_true h)
      rw [abs_of_nonneg this]
  rwa [back] at nearest

end Binary64
end WidgetLocator
