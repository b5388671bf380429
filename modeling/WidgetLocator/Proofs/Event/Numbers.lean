import WidgetLocator.Proofs.Event.Pairs

namespace WidgetLocator

section Characters

variable {c : Char} {n : Int}

theorem not_isBlank_of_isAsciiDigit (h : isAsciiDigit c = true) : isBlank c = false := by
  obtain ⟨low, high⟩ := isAsciiDigit_iff.mp h
  have bounds : 48 ≤ c.toNat ∧ c.toNat ≤ 57 := ⟨low, high⟩
  simp [isBlank]
  omega

theorem of_mem_integerDigits (h : c ∈ integerDigits n) : c = '-' ∨ isAsciiDigit c = true := by
  unfold integerDigits at h
  split at h
  · exact (List.mem_cons.mp h).imp_right isAsciiDigit_of_mem_decimalDigits
  · exact .inr (isAsciiDigit_of_mem_decimalDigits h)

theorem not_isBlank_of_mem_integerDigits (h : c ∈ integerDigits n) : isBlank c = false := by
  rcases of_mem_integerDigits h with rfl | digit
  · rfl
  · exact not_isBlank_of_isAsciiDigit digit

theorem not_mem_integerDigits (apart : c ≠ '-') (h : isAsciiDigit c = false) : c ∉ integerDigits n := by
  intro hm
  rcases of_mem_integerDigits hm with same | digit
  · exact apart same
  · rw [h] at digit
    cases digit

theorem integerDigits_ne_nil (n : Int) : integerDigits n ≠ [] := by
  unfold integerDigits
  split
  · exact List.cons_ne_nil _ _
  · exact decimalDigits_ne_nil _

end Characters

section Reading

theorem leadingInteger_decimalDigits (n : Nat) : leadingInteger (decimalDigits n) =
    if n < Nat.pow 2 63 then Int64.ofInt n else 0 := by
  obtain ⟨c, rest, hd, digit⟩ := exists_decimalDigits n
  have unsigned : leadingInteger (c :: rest) =
      let value := decimalValue ((c :: rest).takeWhile isAsciiDigit)
      if value < Nat.pow 2 63 then Int64.ofInt value else 0 := by
    unfold leadingInteger
    split
    next negative digits sign =>
      split at sign
      next minus =>
        obtain ⟨rfl, -⟩ := List.cons.inj minus
        cases digit
      next plus =>
        obtain ⟨rfl, -⟩ := List.cons.inj plus
        cases digit
      next =>
        cases sign
        rfl
  rw [hd, unsigned, ← hd, takeWhile_decimalDigits, decimalValue_decimalDigits]

theorem leadingInteger_minus (n : Nat) : leadingInteger ('-' :: decimalDigits n) =
    if n < Nat.pow 2 63 then Int64.ofInt (-n) else 0 := by
  simp only [leadingInteger, takeWhile_decimalDigits, decimalValue_decimalDigits, if_true]

/-- Every integer but the least is read back from its text. -/
theorem leadingInteger_int64Text (n : Int64) :
    leadingInteger (int64Text n).toList = if n = Int64.minValue then 0 else n := by
  have low : -2 ^ 63 ≤ n.toInt := n.le_toInt
  have high : n.toInt < 2 ^ 63 := n.toInt_lt
  have least : n = Int64.minValue ↔ n.toInt = -2 ^ 63 := by
    rw [← Int64.toInt_inj, Int64.toInt_minValue]
  have fits : n.toInt.natAbs < Nat.pow 2 63 ↔ ¬n = Int64.minValue := by
    rw [least]
    have power : Nat.pow 2 63 = 9223372036854775808 := rfl
    omega
  rw [int64Text, String.toList_ofList, integerDigits]
  by_cases negative : n.toInt < 0
  · have back : -(n.toInt.natAbs : Int) = n.toInt := by omega
    rw [if_pos negative, leadingInteger_minus, back, Int64.ofInt_toInt]
    simp only [fits, ite_not]
  · have back : (n.toInt.natAbs : Int) = n.toInt := by omega
    rw [if_neg negative, leadingInteger_decimalDigits, back, Int64.ofInt_toInt]
    simp only [fits, ite_not]

theorem leadingInteger_int64Text_eq_iff (n : Int64) :
    leadingInteger (int64Text n).toList = n ↔ n ≠ Int64.minValue := by
  rw [leadingInteger_int64Text]
  by_cases least : n = Int64.minValue
  · rw [least]
    decide
  · rw [if_neg least]
    exact iff_of_true rfl least

end Reading

namespace MouseParameters

variable (parameters : MouseParameters)

theorem int64Text_ne_empty (n : Int64) : int64Text n ≠ "" := by
  intro empty
  have none : integerDigits n.toInt = [] := by
    rw [← String.toList_ofList (l := integerDigits n.toInt)]
    exact String.toList_eq_nil_iff.mpr empty
  exact integerDigits_ne_nil _ none

theorem get?_withNumber (name other : String) (n : Int64) :
    (parameters.withNumber name n).get? other =
      if other = name then some (int64Text n) else parameters.get? other := by
  rw [get?, withNumber, withText, Table.get?_insert]
  split
  · simp [Option.filter, int64Text_ne_empty]
  · rfl

theorem number_withNumber (name : String) (default n : Int64) :
    (parameters.withNumber name n).number name default = leadingInteger (int64Text n).toList := by
  rw [number, get?_withNumber, if_pos rfl]

/-- A name that stands in a pair as it is. -/
def IsPlain (name : String) : Prop :=
  name ≠ "" ∧ ∀ c ∈ name.toList, c ≠ ',' ∧ c ≠ '=' ∧ isBlank c = false

-- the characters of the name are gone through, not all characters there are
instance (name : String) : Decidable (IsPlain name) :=
  have : Decidable (∀ c ∈ name.toList, c ≠ ',' ∧ c ≠ '=' ∧ isBlank c = false) :=
    List.decidableBAll _ name.toList
  inferInstanceAs (Decidable (_ ∧ _))

theorem pair_int64Text {name : String} (plain : IsPlain name) (n : Int64) :
    Pair (name ++ "=" ++ int64Text n).toList name (int64Text n) := by
  have text : (int64Text n).toList = integerDigits n.toInt := String.toList_ofList
  have whole : (name ++ "=" ++ int64Text n).toList =
      name.toList ++ '=' :: ((int64Text n).toList ++ []) := by
    simp [String.toList_append]
  have single : '=' ∉ name.toList := fun hm => (plain.2 _ hm).2.1 rfl
  have digits : '=' ∉ (int64Text n).toList := text ▸ not_mem_integerDigits (by decide) rfl
  have trimmed : Trims (int64Text n).toList (int64Text n).toList :=
    trims_self (text ▸ fun c hc => not_isBlank_of_mem_integerDigits hc)
  rw [whole]
  exact .valued single digits (.inl rfl) (trims_self fun c hc => (plain.2 c hc).2.2) trimmed

/-- A pair with the text of an integer sets the parameter to it. -/
theorem parse_appended_number {name : String} (plain : IsPlain name) (text : String) (n : Int64) :
    parse (text ++ "," ++ (name ++ "=" ++ int64Text n)) = (parse text).withNumber name n := by
  have digits : ',' ∉ integerDigits n.toInt := not_mem_integerDigits (by decide) rfl
  have uncut : ',' ∉ name.toList := fun hm => (plain.2 _ hm).1 rfl
  refine parse_appended_pair ?_ (pair_int64Text plain n) plain.1 text
  simpa [String.toList_append, int64Text, uncut] using digits

end MouseParameters

end WidgetLocator
