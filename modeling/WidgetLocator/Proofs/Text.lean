import WidgetLocator.Text
import Mathlib.Data.List.Induction
import Mathlib.Data.List.TakeWhile
import Mathlib.Data.Nat.Digits.Defs

namespace WidgetLocator

section Characters

variable {c d : Char}

theorem isAsciiLetter_iff :
    isAsciiLetter c = true ↔ ('a' ≤ c ∧ c ≤ 'z') ∨ ('A' ≤ c ∧ c ≤ 'Z') := by
  simp [isAsciiLetter]

theorem isAsciiDigit_iff : isAsciiDigit c = true ↔ '0' ≤ c ∧ c ≤ '9' := by
  simp [isAsciiDigit]

theorem isAsciiDigit_digitChar : ∀ n < 10, isAsciiDigit (digitChar n) = true := by
  decide

theorem digitValue_digitChar : ∀ n < 10, digitValue (digitChar n) = n := by
  decide

theorem toNat_ofNat {n : Nat} (h : n < 0xD800) : (Char.ofNat n).toNat = n := by
  have hv : n.isValidChar := Or.inl h
  rw [Char.ofNat, dif_pos hv]
  rfl

/-- A character that is no capital is the lower case of itself and, if it is a small letter, of
one capital. -/
theorem asciiLower_eq_iff (h : ¬('A' ≤ c ∧ c ≤ 'Z')) :
    asciiLower d = c ↔ d = c ∨ ('A' ≤ d ∧ d ≤ 'Z') ∧ d.toNat + 32 = c.toNat := by
  unfold asciiLower
  split
  next hd =>
    have hd' : 65 ≤ d.toNat ∧ d.toNat ≤ 90 := hd
    have hne : d ≠ c := fun he => h (he ▸ hd)
    rw [← Char.toNat_inj, toNat_ofNat (by omega)]
    simp [hne, hd]
  next hd => simp [hd]

end Characters

section Separators

variable {c : Char} {text before after : List Char}

theorem splitAtFirst_eq_some_iff :
    splitAtFirst c text = some (before, after) ↔ text = before ++ c :: after ∧ c ∉ before := by
  induction text generalizing before with
  | nil => simp [splitAtFirst]
  | cons x xs ih =>
    by_cases hx : x = c
    · subst hx
      rw [splitAtFirst, if_pos rfl]
      cases before with
      | nil => simp [eq_comm]
      | cons y ys =>
        simp only [Option.some.injEq, Prod.mk.injEq, List.nil_eq, reduceCtorEq, false_and,
          List.cons_append, List.cons.injEq, List.mem_cons, not_or, false_iff]
        rintro ⟨⟨rfl, _⟩, hne, _⟩
        exact hne rfl
    · rw [splitAtFirst, if_neg hx]
      cases before with
      | nil => simp [hx]
      | cons y ys =>
        simp only [Option.map_eq_some_iff, Prod.exists, Prod.mk.injEq, List.cons_append,
          List.cons.injEq, List.mem_cons, not_or]
        constructor
        · rintro ⟨ys, after, h, ⟨rfl, rfl⟩, rfl⟩
          obtain ⟨rfl, hn⟩ := ih.mp h
          exact ⟨⟨rfl, rfl⟩, Ne.symm hx, hn⟩
        · rintro ⟨⟨rfl, he⟩, _, hn⟩
          exact ⟨ys, after, ih.mpr ⟨he, hn⟩, ⟨rfl, rfl⟩, rfl⟩

theorem splitAtFirst_eq_none_iff : splitAtFirst c text = none ↔ c ∉ text := by
  rw [Option.eq_none_iff_forall_ne_some]
  constructor
  · intro none hm
    obtain ⟨before, after, rfl, hb⟩ := List.eq_append_cons_of_mem hm
    exact none (before, after) (splitAtFirst_eq_some_iff.mpr ⟨rfl, hb⟩)
  · rintro hm ⟨before, after⟩ h
    obtain ⟨rfl, _⟩ := splitAtFirst_eq_some_iff.mp h
    exact hm (by simp)

theorem not_mem_of_mem_splitOn {piece : List Char} (h : piece ∈ text.splitOn c) : c ∉ piece := by
  induction text generalizing piece with
  | nil =>
    obtain rfl : piece = [] := by simpa using h
    simp
  | cons x xs ih =>
    rw [List.splitOn_cons_eq_if_modifyHead] at h
    split at h
    next hx =>
      rcases List.mem_cons.mp h with rfl | h
      · simp
      · exact ih h
    next hx =>
      obtain ⟨first, rest, hs⟩ := List.exists_cons_of_ne_nil (List.splitOn_ne_nil c xs)
      rw [hs, List.modifyHead_cons] at h
      rcases List.mem_cons.mp h with rfl | h
      · have hf : c ∉ first := ih (by simp [hs])
        have hc : c ≠ x := fun he => hx (by simp [he])
        exact List.not_mem_cons_of_ne_of_not_mem hc hf
      · exact ih (by simp [hs, h])

/-- The pieces of a text between slashes are not empty and hold no slash. -/
theorem of_mem_segments {segment : List Char} (h : segment ∈ segments text) :
    segment ≠ [] ∧ '/' ∉ segment := by
  obtain ⟨hs, hne⟩ := List.mem_filter.mp h
  exact ⟨by simpa using hne, not_mem_of_mem_splitOn hs⟩

theorem splitOn_append (h : c ∉ before) :
    (before ++ after).splitOn c = (after.splitOn c).modifyHead (before ++ ·) := by
  induction before with
  | nil =>
    obtain ⟨first, others, hs⟩ := List.exists_cons_of_ne_nil (List.splitOn_ne_nil c after)
    rw [List.nil_append, hs]
    rfl
  | cons x before ih =>
    have hx : c ≠ x := List.ne_of_not_mem_cons h
    have hb : c ∉ before := List.not_mem_of_not_mem_cons h
    rw [List.cons_append, List.splitOn_cons_eq_if_modifyHead, if_neg (by simpa using Ne.symm hx),
      ih hb, List.modifyHead_modifyHead]
    rfl

/-- A text that does not start with a slash starts with a segment. -/
theorem exists_mem_segments (h : '/' ∉ before) (hne : before ≠ []) (after : List Char) :
    ∃ rest, before ++ rest ∈ segments (before ++ after) := by
  obtain ⟨first, others, hs⟩ := List.exists_cons_of_ne_nil (List.splitOn_ne_nil '/' after)
  refine ⟨first, List.mem_filter.mpr ⟨?_, by simp [hne]⟩⟩
  rw [splitOn_append h, hs]
  exact List.mem_cons_self

/-- A text without segments is a row of slashes. -/
theorem eq_slash_of_segments_eq_nil (h : segments text = []) : ∀ c ∈ text, c = '/' := by
  induction text with
  | nil => simp
  | cons x xs ih =>
    by_cases hx : x = '/'
    · subst hx
      have rest : segments ('/' :: xs) = segments xs := by
        simp [segments, List.splitOn_cons_eq_if_modifyHead]
      exact List.forall_mem_cons.mpr ⟨rfl, ih (rest.symm.trans h)⟩
    · have single : '/' ∉ [x] := by simpa using Ne.symm hx
      obtain ⟨later, hm⟩ := exists_mem_segments single (by simp) xs
      rw [List.singleton_append, h] at hm
      cases hm

theorem segments_intercalate {parts : List (List Char)}
    (h : ∀ part ∈ parts, part ≠ [] ∧ '/' ∉ part) : segments (['/'].intercalate parts) = parts := by
  by_cases hn : parts = []
  · subst hn
    rfl
  · rw [segments, List.splitOn_intercalate '/' (fun part hp => (h part hp).2) hn]
    exact List.filter_eq_self.mpr fun part hp => by simpa using (h part hp).1

theorem splitOnDoubleSlash_ne_nil (text : List Char) : splitOnDoubleSlash text ≠ [] := by
  fun_induction splitOnDoubleSlash text with
  | case1 | case2 => simp
  | case3 x xs _ ih => simpa [List.modifyHead_eq_nil_iff] using ih

theorem intercalate_splitOnDoubleSlash (text : List Char) :
    ['/', '/'].intercalate (splitOnDoubleSlash text) = text := by
  fun_induction splitOnDoubleSlash text with
  | case1 => rfl
  | case2 xs ih =>
    rw [List.intercalate_cons_of_ne_nil (splitOnDoubleSlash_ne_nil xs), ih]
    rfl
  | case3 x xs _ ih =>
    obtain ⟨piece, pieces, hs⟩ := List.exists_cons_of_ne_nil (splitOnDoubleSlash_ne_nil xs)
    rw [hs] at ih ⊢
    rw [List.modifyHead_cons, List.intercalate_cons_cons_left, ih]

theorem dropLeading_eq_some_iff {lead text rest : List Char} :
    dropLeading lead text = some rest ↔ text = lead ++ rest := by
  induction lead generalizing text with
  | nil => simp [dropLeading]
  | cons c lead ih =>
    cases text with
    | nil => simp [dropLeading]
    | cons x text =>
      rw [dropLeading]
      split
      next same => rw [ih, same, List.cons_append, List.cons.injEq, and_iff_right rfl]
      next apart =>
        refine iff_of_false nofun ?_
        intro h
        exact apart (List.cons.inj h).1.symm

theorem dropLeading_eq_none_iff {lead text : List Char} :
    dropLeading lead text = none ↔ ¬lead <+: text := by
  rw [Option.eq_none_iff_forall_ne_some]
  constructor
  · rintro none ⟨rest, h⟩
    exact none rest (dropLeading_eq_some_iff.mpr h.symm)
  · intro apart rest h
    exact apart ⟨rest, (dropLeading_eq_some_iff.mp h).symm⟩

end Separators

section Blanks

/-- A text is another one with blanks around it, which itself neither starts nor ends with one. -/
structure Trims (text trimmed : List Char) : Prop where
  around : ∃ before after, text = before ++ trimmed ++ after ∧ (∀ c ∈ before, isBlank c = true) ∧
    ∀ c ∈ after, isBlank c = true
  first : ∀ c ∈ trimmed.head?, isBlank c = false
  last : ∀ c ∈ trimmed.getLast?, isBlank c = false

variable {text trimmed blanks : List Char}

theorem dropWhile_blanks (h : ∀ c ∈ blanks, isBlank c = true)
    (first : ∀ c ∈ text.head?, isBlank c = false) : (blanks ++ text).dropWhile isBlank = text := by
  rw [List.dropWhile_append_of_pos h]
  cases text with
  | nil => rfl
  | cons c rest => exact List.dropWhile_cons_of_neg (by simp [first c rfl])

theorem Trims.trimBlanks_eq (h : Trims text trimmed) : trimBlanks text = trimmed := by
  obtain ⟨before, after, rfl, hb, ha⟩ := h.around
  have reversed : ∀ c ∈ after.reverse, isBlank c = true := fun c hc => ha c (List.mem_reverse.mp hc)
  cases trimmed with
  | nil =>
    have blank : ∀ c ∈ before ++ [] ++ after, isBlank c = true := by
      simpa [or_imp, forall_and] using And.intro hb ha
    rw [trimBlanks, List.dropWhile_eq_nil_iff.mpr blank]
    rfl
  | cons c rest =>
    have left : (before ++ c :: rest ++ after).dropWhile isBlank = c :: rest ++ after := by
      rw [List.append_assoc]
      exact dropWhile_blanks hb h.first
    have right : (c :: rest ++ after).reverse.dropWhile isBlank = (c :: rest).reverse := by
      rw [List.reverse_append]
      refine dropWhile_blanks reversed ?_
      rw [List.head?_reverse]
      exact h.last
    rw [trimBlanks, left, right, List.reverse_reverse]

theorem trims_trimBlanks (text : List Char) : Trims text (trimBlanks text) := by
  have leads (xs : List Char) : ∀ c ∈ (xs.dropWhile isBlank).head?, isBlank c = false := by
    intro c hc
    have unblank := List.head?_dropWhile_not isBlank xs
    rwa [Option.mem_def.mp hc] at unblank
  let kept := text.dropWhile isBlank
  have split : text = text.takeWhile isBlank ++ kept := List.takeWhile_append_dropWhile.symm
  have keptSplit : kept = trimBlanks text ++ (kept.reverse.takeWhile isBlank).reverse := by
    rw [trimBlanks, ← List.reverse_append, List.takeWhile_append_dropWhile, List.reverse_reverse]
  refine ⟨⟨text.takeWhile isBlank, (kept.reverse.takeWhile isBlank).reverse, ?_, ?_, ?_⟩, ?_, ?_⟩
  · rw [List.append_assoc, ← keptSplit]
    exact split
  · exact fun c hc => List.mem_takeWhile_imp hc
  · exact fun c hc => List.mem_takeWhile_imp (List.mem_reverse.mp hc)
  · intro c hc
    refine leads text c ?_
    change c ∈ kept.head?
    rw [keptSplit, List.head?_append, Option.mem_def.mp hc]
    rfl
  · intro c hc
    refine leads kept.reverse c ?_
    rwa [trimBlanks, List.getLast?_reverse] at hc

theorem trims_self (h : ∀ c ∈ text, isBlank c = false) : Trims text text where
  around := ⟨[], [], by simp, by simp, by simp⟩
  first c hc := h c (List.mem_of_head? hc)
  last c hc := h c (List.mem_of_getLast? hc)

end Blanks

section Digits

theorem decimalValue_append (digits : List Char) (d : Char) :
    decimalValue (digits ++ [d]) = 10 * decimalValue digits + digitValue d := by
  simp [decimalValue]

theorem decimalValue_decimalDigits (n : Nat) : decimalValue (decimalDigits n) = n := by
  fun_induction decimalDigits n with
  | case1 n h => simp [decimalValue, digitValue_digitChar n h]
  | case2 n h ih =>
    rw [decimalValue_append, ih, digitValue_digitChar _ (Nat.mod_lt n (by decide))]
    exact Nat.div_add_mod n 10

theorem decimalDigits_ne_nil (n : Nat) : decimalDigits n ≠ [] := by
  rw [decimalDigits]
  split <;> simp

theorem isAsciiDigit_of_mem_decimalDigits {n : Nat} {c : Char} (h : c ∈ decimalDigits n) :
    isAsciiDigit c = true := by
  fun_induction decimalDigits n with
  | case1 n hn =>
    obtain rfl := List.mem_singleton.mp h
    exact isAsciiDigit_digitChar _ hn
  | case2 n hn ih =>
    rcases List.mem_append.mp h with h | h
    · exact ih h
    · obtain rfl := List.mem_singleton.mp h
      exact isAsciiDigit_digitChar _ (Nat.mod_lt n (by decide))

theorem exists_decimalDigits (n : Nat) :
    ∃ c digits, decimalDigits n = c :: digits ∧ isAsciiDigit c = true := by
  obtain ⟨c, digits, hd⟩ := List.exists_cons_of_ne_nil (decimalDigits_ne_nil n)
  have digit : c ∈ decimalDigits n := hd ▸ List.mem_cons_self
  exact ⟨c, digits, hd, isAsciiDigit_of_mem_decimalDigits digit⟩

theorem takeWhile_decimalDigits (n : Nat) :
    (decimalDigits n).takeWhile isAsciiDigit = decimalDigits n :=
  List.takeWhile_eq_self_iff.mpr fun _ hc => isAsciiDigit_of_mem_decimalDigits hc

theorem length_decimalDigits_le {n k : Nat} (h : n < 10 ^ (k + 1)) :
    (decimalDigits n).length ≤ k + 1 := by
  induction k generalizing n with
  | zero =>
    rw [decimalDigits, if_pos (by omega)]
    exact le_rfl
  | succ k ih =>
    rw [decimalDigits]
    split
    · exact Nat.succ_le_succ (Nat.zero_le _)
    · rw [List.length_append, List.length_singleton]
      exact Nat.succ_le_succ (ih (Nat.div_lt_of_lt_mul (by rwa [pow_succ'] at h)))

/-- A row of digits stands for a number in the base ten. -/
theorem decimalValue_eq_ofDigits (digits : List Char) :
    decimalValue digits = Nat.ofDigits 10 (digits.map digitValue).reverse := by
  induction digits using List.reverseRecOn with
  | nil => rfl
  | append_singleton digits d ih =>
    rw [decimalValue_append, ih, List.map_append, List.reverse_append]
    simp [Nat.ofDigits_cons, Nat.add_comm]

end Digits

end WidgetLocator
