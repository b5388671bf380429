import WidgetLocator.Snapshot
import WidgetLocator.Binary64.Literal
import WidgetLocator.Proofs.Binary64.Rounding
import WidgetLocator.Proofs.Text

namespace WidgetLocator
namespace Binary64

section Literals

variable {n : Nat}

theorem ofDecimal_integer (negative : Bool) (h : n < 10 ^ 21) :
    ofDecimal negative n 0 = ofRatio negative n 1 := by
  have length := length_decimalDigits_le (n := n) (k := 20) h
  have unscaled : n * Nat.pow 10 (Int.toNat 0) = n := Nat.mul_one n
  rw [ofDecimal]
  split
  next none =>
    rw [none]
    exact (if_pos rfl).symm
  next some =>
    rw [if_neg (by omega), if_neg (by omega), if_pos le_rfl, unscaled]

theorem ofUnsignedLiteral?_decimalDigits (negative : Bool) (h : n < 10 ^ 21) :
    ofUnsignedLiteral? negative (decimalDigits n) = some (ofRatio negative n 1) := by
  have rest : (decimalDigits n).dropWhile isAsciiDigit = [] :=
    List.dropWhile_eq_nil_iff.mpr fun _ hc => isAsciiDigit_of_mem_decimalDigits hc
  have span : (decimalDigits n).span isAsciiDigit = (decimalDigits n, []) := by
    rw [List.span_eq_takeWhile_dropWhile, takeWhile_decimalDigits, rest]
  have some : (decimalDigits n).isEmpty = false :=
    List.isEmpty_eq_false_iff.mpr (decimalDigits_ne_nil n)
  rw [ofUnsignedLiteral?, span]
  simp only [List.append_nil, some, Bool.not_false, guard_true, exponentOf?, decimalValue_decimalDigits,
    List.length_nil, Nat.cast_zero, sub_zero]
  exact congrArg Option.some (ofDecimal_integer negative h)

/-- The text of an integer is read as the number nearest to it. -/
theorem ofLiteral?_integerDigits {n : Int} (h : n.natAbs < 10 ^ 21) :
    ofLiteral? (integerDigits n) = some (ofInt n) := by
  rw [integerDigits, ofInt]
  split
  next negative =>
    rw [ofLiteral?, ofUnsignedLiteral?_decimalDigits true h, decide_eq_true negative]
  next positive =>
    rw [decide_eq_false positive, ← ofUnsignedLiteral?_decimalDigits false h]
    obtain ⟨c, digits, hd, digit⟩ := exists_decimalDigits n.natAbs
    rw [hd]
    unfold ofLiteral?
    split
    next minus =>
      obtain ⟨rfl, -⟩ := List.cons.inj minus
      cases digit
    next plus =>
      obtain ⟨rfl, -⟩ := List.cons.inj plus
      cases digit
    next => rfl

end Literals

/-- A finite number that is an integer of at most 21 digits. -/
structure IsShortInteger (x : Binary64) (v : Int) : Prop where
  finite : x.isFinite = true
  value_eq : x.value = v
  short : v.natAbs < 10 ^ 21

theorem numberText_of_isShortInteger {x : Binary64} {v : Int} (hx : x.IsShortInteger v) :
    numberText x = String.ofList (integerDigits (clampToInt64 v)) := by
  have below : x.magnitudeBits < infinityBits := of_decide_eq_true hx.finite
  have number : x.isNaN = false := decide_eq_false (by omega)
  have bounded : x.isInfinite = false := beq_eq_false_iff_ne.mpr below.ne
  have short : v.natAbs < Nat.pow 10 21 := hx.short
  rw [numberText, number, bounded, integer?_of_value hx.finite hx.value_eq]
  simp only [Bool.false_eq_true, if_false, if_pos short]

section Range

variable {x y : Binary64} {v w : Int}

/-- The bounds of the signed 64-bit range, as a number. -/
def int64Limit (negative : Bool) : Binary64 :=
  ofMagnitude negative (gridBits (2 ^ 52) 11)

theorem isFinite_int64Limit (negative : Bool) : (int64Limit negative).isFinite = true :=
  (isFinite_ofMagnitude _ _).mpr (by decide)

theorem value_int64Limit (negative : Bool) : (int64Limit negative).value = signed negative (2 ^ 63) := by
  have grid : OnGrid (2 ^ 52) 11 := ⟨by decide, .inl le_rfl, by decide⟩
  rw [value, int64Limit, isNegative_ofMagnitude, size_of_gridBits negative grid (by decide)]
  norm_num

/-- The numbers around the upper bound are multiples of `2 ^ 10`, so that no other one is near. -/
theorem value_eq_of_near (near : |y.value - (2 ^ 63 - 1)| ≤ 1) : y.value = 2 ^ 63 := by
  obtain ⟨low, high⟩ := abs_le.mp near
  obtain ⟨j, hj⟩ : ∃ j : Int, y.value = j * 2 ^ (10 : Int) := by
    refine value_multiple_of_le (le_trans ?_ (le_abs_self y.value))
    have leading : (2 : ℚ) ^ 52 * 2 ^ (10 : Int) = 2 ^ 62 := by norm_num
    linarith
  have whole : y.value = (j * 2 ^ 10 : Int) := by
    rw [hj]
    norm_num
  rw [whole] at low high ⊢
  have lower : (2 ^ 63 - 2 : Int) ≤ j * 2 ^ 10 := by
    have : (2 ^ 63 - 2 : ℚ) ≤ (j * 2 ^ 10 : Int) := by linarith
    exact_mod_cast this
  have upper : j * 2 ^ 10 ≤ (2 ^ 63 : Int) := by
    have : (j * 2 ^ 10 : Int) ≤ (2 ^ 63 : ℚ) := by linarith
    exact_mod_cast this
  have exact : j * 2 ^ 10 = 2 ^ 63 := by omega
  rw [exact]
  norm_num

/-- The upper bound is nearest to the greatest integer of the range. -/
theorem value_of_isNearest_greatest (nearest : y.IsNearest (2 ^ 63 - 1 : Int)) : y.value = 2 ^ 63 := by
  have closest := nearest.closest (int64Limit false) (isFinite_int64Limit false)
  rw [value_int64Limit, signed, if_neg Bool.false_ne_true] at closest
  refine value_eq_of_near ?_
  norm_num at closest ⊢
  exact closest

theorem clampToInt64_eq (v : Int) : clampToInt64 v = max (-2 ^ 63) (min v (2 ^ 63 - 1)) :=
  rfl

/-- What the text of an integral number reads back as. -/
theorem value_of_isNearest_clampToInt64 (finite : x.isFinite = true) (hx : x.value = v)
    (nearest : y.IsNearest (clampToInt64 v)) : y.value = (max (-2 ^ 63) (min v (2 ^ 63)) : Int) := by
  rcases lt_or_ge v (-2 ^ 63) with under | low
  · have lowest : clampToInt64 v = -2 ^ 63 ∧ max (-2 ^ 63) (min v (2 ^ 63)) = -2 ^ 63 := by
      rw [clampToInt64_eq]
      omega
    rw [lowest.1] at nearest
    rw [lowest.2]
    refine nearest.value_eq (isFinite_int64Limit true) ?_
    rw [value_int64Limit, signed]
    norm_num
  rcases lt_or_ge v (2 ^ 63) with high | beyond
  · have kept : clampToInt64 v = v ∧ max (-2 ^ 63) (min v (2 ^ 63)) = v := by
      rw [clampToInt64_eq]
      omega
    rw [kept.1] at nearest
    rw [kept.2]
    exact nearest.value_eq finite hx
  · have greatest : clampToInt64 v = 2 ^ 63 - 1 ∧ max (-2 ^ 63) (min v (2 ^ 63)) = 2 ^ 63 := by
      rw [clampToInt64_eq]
      omega
    rw [greatest.1] at nearest
    rw [greatest.2, value_of_isNearest_greatest nearest]
    norm_num

end Range

section Texts

variable {x y : Binary64} {v w : Int}

theorem natAbs_clampToInt64_lt (v : Int) : (clampToInt64 v).natAbs < 10 ^ 21 := by
  rw [clampToInt64_eq]
  omega

theorem ofInt_isNearest_of_short {n : Int} (short : n.natAbs < 10 ^ 21) : (ofInt n).IsNearest n := by
  refine ofInt_isNearest ?_
  have bounded : |(n : ℚ)| < 2 ^ (70 : Int) :=
    calc |(n : ℚ)| = n.natAbs := by rw [Nat.cast_natAbs, Int.cast_abs]
      _ < (10 ^ 21 : Nat) := by exact_mod_cast short
      _ < 2 ^ (70 : Int) := by norm_num
  exact bounded.trans_le (zpow_le_zpow_right₀ one_le_two (by norm_num))

theorem numberText_eq_iff (hx : x.IsShortInteger v) (hy : y.IsShortInteger w) :
    numberText x = numberText y ↔
      v = w ∨ (2 ^ 63 ≤ v ∧ 2 ^ 63 ≤ w) ∨ (v ≤ -2 ^ 63 ∧ w ≤ -2 ^ 63) := by
  rw [numberText_of_isShortInteger hx, numberText_of_isShortInteger hy]
  constructor
  · intro same
    -- one text is read as one number, which tells where both values are cut
    have digits := congrArg ofLiteral? (String.ofList_injective same)
    rw [ofLiteral?_integerDigits (natAbs_clampToInt64_lt v),
      ofLiteral?_integerDigits (natAbs_clampToInt64_lt w)] at digits
    have nearest := ofInt_isNearest_of_short (natAbs_clampToInt64_lt v)
    have left := value_of_isNearest_clampToInt64 hx.finite hx.value_eq nearest
    rw [Option.some.inj digits] at left
    have right := value_of_isNearest_clampToInt64 hy.finite hy.value_eq
      (ofInt_isNearest_of_short (natAbs_clampToInt64_lt w))
    have cut := Int.cast_injective (left.symm.trans right)
    omega
  · intro alike
    have clamped : clampToInt64 v = clampToInt64 w := by
      rw [clampToInt64_eq, clampToInt64_eq]
      omega
    rw [clamped]

/-- An integral number below `10 ^ 21` has the text of an integer, also in a graph without its own
way to write values, and this reads back as the number exactly if it is at most `2 ^ 63` in size. The
larger ones of a sign all have the same text. -/
theorem integral_text_reads_back {ν : Type} (graph : WidgetGraph ν) (hx : x.IsShortInteger v) :
    ∃ n : Int,
      Value.scalarText (.number x : Value ν) = some (String.ofList (integerDigits n)) ∧
      (graph.stringify = textOf graph.display →
        graph.stringify (.number x) = String.ofList (integerDigits n)) ∧
      (∃ y, ofLiteral? (integerDigits n) = some y ∧ y.IsNearest n) ∧
      (∀ y : Binary64, y.IsNearest n → (y.value = v ↔ v.natAbs ≤ 2 ^ 63)) ∧
      ∀ (y : Binary64) (w : Int), y.IsShortInteger w →
        (Value.scalarText (.number x : Value ν) = Value.scalarText (.number y : Value ν) ↔
          v = w ∨ (2 ^ 63 ≤ v ∧ 2 ^ 63 ≤ w) ∨ (v ≤ -2 ^ 63 ∧ w ≤ -2 ^ 63)) := by
  have text := numberText_of_isShortInteger hx
  have short := natAbs_clampToInt64_lt v
  refine ⟨clampToInt64 v, congrArg some text, fun usual => by rw [usual]; exact text, ?_, ?_, ?_⟩
  · exact ⟨_, ofLiteral?_integerDigits short, ofInt_isNearest_of_short short⟩
  · intro y nearest
    rw [value_of_isNearest_clampToInt64 hx.finite hx.value_eq nearest, Int.cast_inj]
    omega
  · intro y w hy
    exact Option.some_inj.trans (numberText_eq_iff hx hy)

/-- The least number that does not fit the range still reads back, the next one does not. -/
theorem integral_text_reads_back_limit :
    (IsShortInteger ⟨0x43E0000000000000⟩ (2 ^ 63) ∧
      IsShortInteger ⟨0x43E0000000000001⟩ (2 ^ 63 + 2048)) ∧
    ∀ snapshot : Snapshot, ∃ n m : Int,
      snapshot.graph.stringify (.number ⟨0x43E0000000000000⟩) = String.ofList (integerDigits n) ∧
      snapshot.graph.stringify (.number ⟨0x43E0000000000001⟩) = String.ofList (integerDigits m) ∧
      (∀ y : Binary64, y.IsNearest n → y.value = (2 ^ 63 : Int)) ∧
      ∀ y : Binary64, y.IsNearest m → y.value ≠ (2 ^ 63 + 2048 : Int) := by
  have least : IsShortInteger ⟨0x43E0000000000000⟩ (2 ^ 63) := ⟨rfl, by decide +kernel, by decide⟩
  have next : IsShortInteger ⟨0x43E0000000000001⟩ (2 ^ 63 + 2048) :=
    ⟨rfl, by decide +kernel, by decide⟩
  refine ⟨⟨least, next⟩, fun snapshot => ?_⟩
  obtain ⟨n, -, hn, -, back, -⟩ := integral_text_reads_back snapshot.graph least
  obtain ⟨m, -, hm, -, lost, -⟩ := integral_text_reads_back snapshot.graph next
  exact ⟨n, m, hn rfl, hm rfl, fun y nearest => (back y nearest).mpr (by decide),
    fun y nearest => mt (lost y nearest).mp (by decide)⟩

/-- The two numbers `10 ^ 20` and `2 * 10 ^ 20` have one text, which reads back as `2 ^ 63`. -/
theorem large_integers_lost :
    IsShortInteger ⟨0x4415AF1D78B58C40⟩ (10 ^ 20) ∧
    IsShortInteger ⟨0x4425AF1D78B58C40⟩ (2 * 10 ^ 20) ∧
    Value.scalarText (.number ⟨0x4415AF1D78B58C40⟩ : Value Nat) = some "9223372036854775807" ∧
    Value.scalarText (.number ⟨0x4425AF1D78B58C40⟩ : Value Nat) = some "9223372036854775807" ∧
    "9223372036854775807" = String.ofList (integerDigits (2 ^ 63 - 1)) ∧
    ∀ y : Binary64, y.IsNearest (2 ^ 63 - 1 : Int) → y.value ≠ (10 ^ 20 : Int) := by
  have one : IsShortInteger ⟨0x4415AF1D78B58C40⟩ (10 ^ 20) := ⟨rfl, by decide +kernel, by decide⟩
  have two : IsShortInteger ⟨0x4425AF1D78B58C40⟩ (2 * 10 ^ 20) :=
    ⟨rfl, by decide +kernel, by decide⟩
  refine ⟨one, two, by decide +kernel, by decide +kernel, by decide +kernel, fun y nearest => ?_⟩
  rw [value_of_isNearest_greatest nearest]
  norm_num

end Texts

end Binary64
end WidgetLocator
