import WidgetLocator.Path
import WidgetLocator.Proofs.Results
import WidgetLocator.Proofs.Text
import Mathlib.Computability.Language
import Mathlib.Order.CompletePartialOrder

namespace WidgetLocator

open scoped Computability

section Classes

/-- The texts of one character of a class. -/
def oneOf (p : Char → Prop) : Language Char :=
  {text | ∃ c, text = [c] ∧ p c}

variable {p : Char → Prop} {text : List Char}

theorem mem_oneOf_eq {c : Char} : text ∈ oneOf (· = c) ↔ text = [c] := by
  constructor
  · rintro ⟨d, rfl, rfl⟩
    rfl
  · rintro rfl
    exact ⟨c, rfl, rfl⟩

theorem mem_oneOf_mul {l : Language Char} :
    text ∈ oneOf p * l ↔ ∃ c rest, text = c :: rest ∧ p c ∧ rest ∈ l := by
  constructor
  · intro h
    obtain ⟨_, ⟨c, rfl, hc⟩, rest, hr, rfl⟩ := Language.mem_mul.mp h
    exact ⟨c, rest, rfl, hc, hr⟩
  · rintro ⟨c, rest, rfl, hc, hr⟩
    exact Language.mem_mul.mpr ⟨[c], ⟨c, rfl, hc⟩, rest, hr, rfl⟩

theorem mem_star_oneOf : text ∈ (oneOf p)∗ ↔ ∀ c ∈ text, p c := by
  constructor
  · intro h c hc
    obtain ⟨pieces, rfl, inside⟩ := Language.mem_kstar.mp h
    obtain ⟨piece, hp, hc⟩ := List.mem_flatten.mp hc
    obtain ⟨d, rfl, hd⟩ := inside piece hp
    obtain rfl := List.mem_singleton.mp hc
    exact hd
  · intro h
    have pieces : (text.map fun c => [c]).flatten = text := by
      induction text with
      | nil => rfl
      | cons c rest ih => simp [ih fun d hd => h d (List.mem_cons_of_mem c hd)]
    rw [← pieces]
    refine Language.join_mem_kstar fun piece hp => ?_
    obtain ⟨c, hc, rfl⟩ := List.mem_map.mp hp
    exact ⟨c, rfl, h c hc⟩

end Classes

namespace StepForm

def IsLetter (c : Char) : Prop :=
  ('a' ≤ c ∧ c ≤ 'z') ∨ ('A' ≤ c ∧ c ≤ 'Z')

def IsDigit (c : Char) : Prop :=
  '0' ≤ c ∧ c ≤ '9'

instance : DecidablePred IsLetter := fun _ => inferInstanceAs (Decidable (_ ∨ _))

instance : DecidablePred IsDigit := fun _ => inferInstanceAs (Decidable (_ ∧ _))

/-- The language `*`. -/
def wildcard : Language Char :=
  oneOf (· = '*')

/-- The language `[A-Za-z$][A-Za-z0-9_.$]*`. -/
def name : Language Char :=
  oneOf (fun c => IsLetter c ∨ c = '$') *
    (oneOf fun c => IsLetter c ∨ IsDigit c ∨ c = '_' ∨ c = '.' ∨ c = '$')∗

/-- The language `child`, each letter in either case. -/
def childWord : Language Char :=
  ("child".toList.map fun c => oneOf fun d => d = c ∨ d = c.toUpper).prod

/-- The language `[0-9]+`. -/
def digitRow : Language Char :=
  oneOf IsDigit * (oneOf IsDigit)∗

/-- The language `child\[[0-9]+\]`, with the word in either case. -/
def index : Language Char :=
  childWord * (oneOf (· = '[') * (digitRow * oneOf (· = ']')))

/-- The texts from an opening to a closing bracket. -/
def bracketed : Language Char :=
  {text | text.head? = some '[' ∧ text.getLast? = some ']'}

/-- The attribute value of a segment, if it has one, is a pattern. -/
def HasPattern (segment : List Char) : Prop :=
  ∀ key value, selectedAttribute? segment = some (key, some value) →
    ∃ pattern, Pattern.ofText? (String.ofList (unquoted value)) = some pattern

/-- The number that a row of digits is in the base ten, if it is below `2 ^ 64`, and else the
largest number that is. -/
def indexOf (digits : List Char) : Nat :=
  min (Nat.ofDigits 10 (digits.map fun c => c.toNat - '0'.toNat).reverse) (2 ^ 64 - 1)

/-- The step that a segment stands for, by its form. -/
inductive Denotes : List Char → PathStep → Prop
  | wildcard {segment : List Char} : segment ∈ StepForm.wildcard → Denotes segment .wildcard
  | name {segment : List Char} : segment ∈ StepForm.name →
      Denotes segment (.name (String.ofList segment))
  | index {word digits : List Char} : word ∈ childWord → digits ∈ digitRow →
      Denotes (word ++ '[' :: digits ++ [']']) (.index (indexOf digits))
  | attr {segment : List Char} {predicate : Option AttributePredicate} :
      segment ∈ bracketed → attributePredicate segment = .ok predicate →
      Denotes segment (.attr ⟨String.ofList segment, predicate⟩)

variable {segment word digits : List Char}

theorem mem_name_iff : segment ∈ name ↔ isIdentifier segment = true := by
  rw [name, mem_oneOf_mul]
  cases segment with
  | nil => simp [isIdentifier]
  | cons c cs =>
    simp only [isIdentifier, Bool.and_eq_true, List.all_eq_true, Bool.or_eq_true, beq_iff_eq,
      isAsciiLetter_iff, isAsciiDigit_iff, mem_star_oneOf, List.cons.injEq, IsLetter, IsDigit,
      or_assoc]
    constructor
    · rintro ⟨d, rest, ⟨rfl, rfl⟩, hd, hr⟩
      exact ⟨hd, hr⟩
    · rintro ⟨hc, hr⟩
      exact ⟨c, cs, ⟨rfl, rfl⟩, hc, hr⟩

theorem mem_digitRow_iff : digits ∈ digitRow ↔ digits ≠ [] ∧ digits.all isAsciiDigit = true := by
  rw [digitRow, mem_oneOf_mul]
  cases digits with
  | nil => simp
  | cons d ds =>
    simp only [List.all_eq_true, isAsciiDigit_iff, mem_star_oneOf, List.cons.injEq, IsDigit,
      List.mem_cons, forall_eq_or_imp]
    constructor
    · rintro ⟨c, rest, ⟨rfl, rfl⟩, hc, hr⟩
      exact ⟨by simp, hc, hr⟩
    · rintro ⟨_, hd, hds⟩
      exact ⟨d, ds, ⟨rfl, rfl⟩, hd, hds⟩

theorem eitherCase_iff {c d : Char} (h : 'a' ≤ c ∧ c ≤ 'z')
    (hu : c.toUpper.toNat + 32 = c.toNat) : d = c ∨ d = c.toUpper ↔ asciiLower d = c := by
  have hc : 97 ≤ c.toNat ∧ c.toNat ≤ 122 := h
  have hn : ¬('A' ≤ c ∧ c ≤ 'Z') := by
    intro hA
    have hA' : 65 ≤ c.toNat ∧ c.toNat ≤ 90 := hA
    omega
  rw [asciiLower_eq_iff hn, ← hu, Nat.add_right_cancel_iff, Char.toNat_inj]
  constructor
  · rintro (rfl | rfl)
    · exact Or.inl rfl
    · refine Or.inr ⟨?_, rfl⟩
      show 65 ≤ c.toUpper.toNat ∧ c.toUpper.toNat ≤ 90
      omega
  · exact Or.imp_right And.right

theorem mem_childWord_iff : word ∈ childWord ↔ word.map asciiLower = "child".toList := by
  have small : ∀ c ∈ "child".toList,
      ('a' ≤ c ∧ c ≤ 'z') ∧ c.toUpper.toNat + 32 = c.toNat := by
    intro c hc
    have letters : c = 'c' ∨ c = 'h' ∨ c = 'i' ∨ c = 'l' ∨ c = 'd' := by simpa using hc
    rcases letters with rfl | rfl | rfl | rfl | rfl <;> decide
  unfold childWord
  generalize "child".toList = letters at small
  induction letters generalizing word with
  | nil => simp
  | cons c letters ih =>
    obtain ⟨hs, hu⟩ := small c (by simp)
    rw [List.map_cons, List.prod_cons, mem_oneOf_mul]
    cases word with
    | nil => simp
    | cons d word =>
      have smaller : ∀ d ∈ letters, ('a' ≤ d ∧ d ≤ 'z') ∧ d.toUpper.toNat + 32 = d.toNat :=
        fun d hd => small d (List.mem_cons_of_mem c hd)
      have tail : _ ↔ word.map asciiLower = letters := ih smaller
      rw [List.map_cons, List.cons.injEq, ← eitherCase_iff hs hu]
      constructor
      · rintro ⟨_, _, ⟨rfl, rfl⟩, hd, hw⟩
        exact ⟨hd, tail.mp hw⟩
      · rintro ⟨hd, hw⟩
        exact ⟨d, word, rfl, hd, tail.mpr hw⟩

theorem mem_index_iff : segment ∈ index ↔
    ∃ word ∈ childWord, ∃ digits ∈ digitRow, segment = word ++ '[' :: digits ++ [']'] := by
  constructor
  · intro h
    obtain ⟨word, hw, _, ht, rfl⟩ := Language.mem_mul.mp h
    obtain ⟨_, _, rfl, rfl, hr⟩ := mem_oneOf_mul.mp ht
    obtain ⟨digits, hd, _, hl, rfl⟩ := Language.mem_mul.mp hr
    obtain rfl := mem_oneOf_eq.mp hl
    exact ⟨word, hw, digits, hd, by simp⟩
  · rintro ⟨word, hw, digits, hd, rfl⟩
    rw [List.append_assoc, List.cons_append]
    refine Language.append_mem_mul hw (mem_oneOf_mul.mpr ⟨_, _, rfl, rfl, ?_⟩)
    exact Language.append_mem_mul hd (mem_oneOf_eq.mpr rfl)

theorem childWord_length (h : word ∈ childWord) : word.length = 5 := by
  have hl := congrArg List.length (mem_childWord_iff.mp h)
  simpa using hl

theorem indexDigits?_eq_some_iff : indexDigits? segment = some digits ↔
    digits ∈ digitRow ∧ ∃ word ∈ childWord, segment = word ++ '[' :: digits ++ [']'] := by
  have bracket : ∀ {d}, asciiLower d = '[' → d = '[' := by
    intro d hd
    rcases (asciiLower_eq_iff (by decide)).mp hd with rfl | ⟨hA, hd⟩
    · rfl
    · have hA' : 65 ≤ d.toNat ∧ d.toNat ≤ 90 := hA
      have hd' : d.toNat + 32 = 91 := hd
      omega
  unfold indexDigits?
  constructor
  · intro h
    split at h
    next hw =>
      simp only [Option.ite_none_right_eq_some, Option.some.injEq] at h
      obtain ⟨⟨hl, hne, hd⟩, rfl⟩ := h
      refine ⟨mem_digitRow_iff.mpr ⟨hne, hd⟩, ?_⟩
      have split : "child[".toList = "child".toList ++ ['['] := rfl
      obtain ⟨word, last, ht, hw, hb⟩ := List.map_eq_append_iff.mp (hw.trans split)
      obtain ⟨d, rfl, hd⟩ := List.map_eq_singleton_iff.mp hb
      obtain rfl := bracket hd
      refine ⟨word, mem_childWord_iff.mpr hw, ?_⟩
      calc segment = segment.take 6 ++ segment.drop 6 := (List.take_append_drop 6 segment).symm
        _ = word ++ ['['] ++ ((segment.drop 6).dropLast ++ [']']) := by
            rw [ht, List.dropLast_append_getLast? _ hl]
        _ = word ++ '[' :: (segment.drop 6).dropLast ++ [']'] := by simp
    next => cases h
  · rintro ⟨hd, word, hw, rfl⟩
    have hl := childWord_length hw
    have shape : word ++ '[' :: digits ++ [']'] = (word ++ ['[']) ++ (digits ++ [']']) := by simp
    have h6 : (word ++ ['[']).length = 6 := by simp [hl]
    have hs : (word ++ ['[']).map asciiLower = "child[".toList := by
      rw [List.map_append, mem_childWord_iff.mp hw]
      rfl
    obtain ⟨hne, hd⟩ := mem_digitRow_iff.mp hd
    rw [shape, List.take_left' h6, List.drop_left' h6, if_pos hs]
    simp [hne, hd]

theorem mem_bracketed_iff : segment ∈ bracketed ↔ isBracketed segment = true := by
  change segment.head? = some '[' ∧ segment.getLast? = some ']' ↔ _
  rcases segment with _ | ⟨c, _ | ⟨d, rest⟩⟩
  · simp [isBracketed]
  · have apart : ¬(c = '[' ∧ c = ']') := by
      rintro ⟨rfl, h⟩
      exact absurd h (by decide)
    simpa [isBracketed] using apart
  · simp [isBracketed]

section Disjoint

theorem disjoint_iff {l m : Language Char} : Disjoint l m ↔ ∀ segment ∈ l, segment ∉ m :=
  Set.disjoint_left

theorem wildcard_disjoint_name : Disjoint wildcard name := by
  refine disjoint_iff.mpr fun segment hw hn => ?_
  obtain rfl := mem_oneOf_eq.mp hw
  exact absurd (mem_name_iff.mp hn) (by decide)

theorem wildcard_disjoint_index : Disjoint wildcard index := by
  refine disjoint_iff.mpr fun segment hw hi => ?_
  obtain rfl := mem_oneOf_eq.mp hw
  obtain ⟨word, hc, digits, _, he⟩ := mem_index_iff.mp hi
  have hl := congrArg List.length he
  simp only [List.length_append, List.length_cons, List.length_nil, childWord_length hc] at hl
  omega

theorem wildcard_disjoint_bracketed : Disjoint wildcard bracketed := by
  refine disjoint_iff.mpr fun segment hw hb => ?_
  obtain rfl := mem_oneOf_eq.mp hw
  exact absurd (mem_bracketed_iff.mp hb) (by decide)

theorem not_mem_bracket_of_name (h : segment ∈ name) : '[' ∉ segment := by
  obtain ⟨c, rest, rfl, hc, hr⟩ := mem_oneOf_mul.mp h
  intro hm
  rcases List.mem_cons.mp hm with rfl | hm
  · exact absurd hc (by decide)
  · exact absurd (mem_star_oneOf.mp hr '[' hm) (by decide)

theorem name_disjoint_index : Disjoint name index := by
  refine disjoint_iff.mpr fun segment hn hi => ?_
  obtain ⟨word, _, digits, _, rfl⟩ := mem_index_iff.mp hi
  exact not_mem_bracket_of_name hn (by simp)

theorem name_disjoint_bracketed : Disjoint name bracketed := by
  refine disjoint_iff.mpr fun segment hn hb => ?_
  exact not_mem_bracket_of_name hn (List.mem_of_head? hb.1)

theorem index_disjoint_bracketed : Disjoint index bracketed := by
  refine disjoint_iff.mpr fun segment hi hb => ?_
  obtain ⟨word, hw, digits, _, rfl⟩ := mem_index_iff.mp hi
  have hl := mem_childWord_iff.mp hw
  cases word with
  | nil => simp at hl
  | cons c word =>
    obtain rfl : c = '[' := by simpa using hb.1
    exact absurd (List.cons.inj hl).1 (by decide)

end Disjoint

theorem indexOf_eq (digits : List Char) :
    indexOf digits = min (decimalValue digits) largestIndex := by
  rw [indexOf, decimalValue_eq_ofDigits]
  rfl

theorem denotes_of_parse {step : PathStep} (h : PathStep.parse segment = .ok step) :
    Denotes segment step := by
  unfold PathStep.parse at h
  split at h
  next hw =>
    cases Except.ok.inj h
    exact .wildcard (mem_oneOf_eq.mpr hw)
  next =>
    split at h
    next hn =>
      cases Except.ok.inj h
      exact .name (mem_name_iff.mpr hn)
    next =>
      split at h
      next digits hi =>
        cases Except.ok.inj h
        obtain ⟨hd, word, hw, rfl⟩ := indexDigits?_eq_some_iff.mp hi
        rw [← indexOf_eq]
        exact .index hw hd
      next =>
        split at h
        next hb =>
          obtain ⟨predicate, hp, rfl⟩ := exists_of_map_eq_ok h
          exact .attr (mem_bracketed_iff.mpr hb) hp
        next => cases h

theorem parse_of_name (h : segment ∈ name) :
    PathStep.parse segment = .ok (.name (String.ofList segment)) := by
  have hw : segment ≠ ['*'] := fun he =>
    disjoint_iff.mp wildcard_disjoint_name segment (mem_oneOf_eq.mpr he) h
  rw [PathStep.parse, if_neg hw, if_pos (mem_name_iff.mp h)]

theorem parse_of_index (hw : word ∈ childWord) (hd : digits ∈ digitRow) :
    PathStep.parse (word ++ '[' :: digits ++ [']']) = .ok (.index (indexOf digits)) := by
  have hi := mem_index_iff.mpr ⟨word, hw, digits, hd, rfl⟩
  have hw' : word ++ '[' :: digits ++ [']'] ≠ ['*'] := fun he =>
    disjoint_iff.mp wildcard_disjoint_index _ (mem_oneOf_eq.mpr he) hi
  have hn : ¬isIdentifier (word ++ '[' :: digits ++ [']']) = true := fun he =>
    disjoint_iff.mp name_disjoint_index _ (mem_name_iff.mpr he) hi
  rw [PathStep.parse, if_neg hw', if_neg hn,
    indexDigits?_eq_some_iff.mpr ⟨hd, word, hw, rfl⟩, indexOf_eq]

theorem parse_of_bracketed (h : segment ∈ bracketed) :
    PathStep.parse segment = (attributePredicate segment).map fun predicate =>
      .attr ⟨String.ofList segment, predicate⟩ := by
  have hw : segment ≠ ['*'] := fun he =>
    disjoint_iff.mp wildcard_disjoint_bracketed segment (mem_oneOf_eq.mpr he) h
  have hn : ¬isIdentifier segment = true := fun he =>
    disjoint_iff.mp name_disjoint_bracketed segment (mem_name_iff.mpr he) h
  have hi : indexDigits? segment = none := by
    refine Option.eq_none_iff_forall_ne_some.mpr fun digits hd => ?_
    obtain ⟨hr, word, hw, he⟩ := indexDigits?_eq_some_iff.mp hd
    exact disjoint_iff.mp index_disjoint_bracketed segment
      (mem_index_iff.mpr ⟨word, hw, digits, hr, he⟩) h
  rw [PathStep.parse, if_neg hw, if_neg hn, hi]
  exact if_pos (mem_bracketed_iff.mp h)

/-- A segment is read as the step that it stands for, and as no other. -/
theorem parse_eq_ok_iff {step : PathStep} :
    PathStep.parse segment = .ok step ↔ Denotes segment step := by
  refine ⟨denotes_of_parse, fun h => ?_⟩
  cases h with
  | wildcard h =>
    obtain rfl := mem_oneOf_eq.mp h
    rfl
  | name h => exact parse_of_name h
  | index hw hd => exact parse_of_index hw hd
  | attr h hp =>
    rw [parse_of_bracketed h, hp]
    rfl

theorem exists_attributePredicate_iff :
    (∃ predicate, attributePredicate segment = .ok predicate) ↔ HasPattern segment := by
  unfold attributePredicate HasPattern
  split
  next h => simp [h]
  next key h => simp [h]
  next key value h =>
    simp only [h, Option.some.injEq, Prod.mk.injEq]
    cases hp : Pattern.ofText? (String.ofList (unquoted value)) with
    | none =>
      simp only [reduceCtorEq, exists_false, false_iff, not_forall]
      exact ⟨key, value, ⟨rfl, rfl⟩, by simp [hp]⟩
    | some pattern =>
      refine iff_of_true ⟨_, rfl⟩ ?_
      rintro _ _ ⟨rfl, rfl⟩
      exact ⟨pattern, hp⟩

theorem exists_parse_iff : (∃ step, PathStep.parse segment = .ok step) ↔
    segment ∈ wildcard ∨ segment ∈ name ∨ segment ∈ index ∨
      segment ∈ bracketed ∧ HasPattern segment := by
  simp only [parse_eq_ok_iff]
  constructor
  · rintro ⟨step, h⟩
    cases h with
    | wildcard h => exact Or.inl h
    | name h => exact Or.inr (Or.inl h)
    | index hw hd =>
      exact Or.inr (Or.inr (Or.inl (mem_index_iff.mpr ⟨_, hw, _, hd, rfl⟩)))
    | attr h hp =>
      exact Or.inr (Or.inr (Or.inr ⟨h, exists_attributePredicate_iff.mp ⟨_, hp⟩⟩))
  · rintro (h | h | h | ⟨h, hp⟩)
    · exact ⟨_, .wildcard h⟩
    · exact ⟨_, .name h⟩
    · obtain ⟨word, hw, digits, hd, rfl⟩ := mem_index_iff.mp h
      exact ⟨_, .index hw hd⟩
    · obtain ⟨predicate, hp⟩ := exists_attributePredicate_iff.mpr hp
      exact ⟨_, .attr h hp⟩

end StepForm

namespace Path

variable {text : String} {path : Path}

theorem parse_eq_ok_iff : parse text = .ok path ↔
    List.Forall₂ (fun segment step => PathStep.parse segment = .ok step) (segments text.toList)
      path.steps := by
  rw [← mapM_eq_ok_iff, parse]
  cases (segments text.toList).mapM PathStep.parse with
  | error e => simp
  | ok steps =>
    obtain ⟨steps', hne⟩ := path
    by_cases h : steps = []
    · subst h
      simp [hne.symm]
    · simp [h]

theorem exists_parse_iff : (∃ path, parse text = .ok path) ↔ segments text.toList ≠ [] ∧
    ∀ segment ∈ segments text.toList, ∃ step, PathStep.parse segment = .ok step := by
  rw [← exists_mapM_eq_ok_iff]
  constructor
  · rintro ⟨path, h⟩
    have h := parse_eq_ok_iff.mp h
    refine ⟨?_, path.steps, mapM_eq_ok_iff.mpr h⟩
    intro hn
    rw [hn] at h
    exact path.nonempty (List.forall₂_nil_left_iff.mp h)
  · rintro ⟨hne, steps, h⟩
    have h := mapM_eq_ok_iff.mp h
    have hs : steps ≠ [] := by
      rintro rfl
      exact hne (List.forall₂_nil_right_iff.mp h)
    exact ⟨⟨steps, hs⟩, parse_eq_ok_iff.mpr h⟩

theorem parse_eq_error_iff {e : Error} : parse text = .error e ↔
    (segments text.toList = [] ∧ e = .illFormed (.emptyPath text)) ∨
    ∃ before segment after, segments text.toList = before ++ segment :: after ∧
      (∀ s ∈ before, ∃ step, PathStep.parse s = .ok step) ∧
      PathStep.parse segment = .error e := by
  rw [← mapM_eq_error_iff, parse]
  cases h : (segments text.toList).mapM PathStep.parse with
  | error e' =>
    have hne : segments text.toList ≠ [] := by
      intro hn
      simp [hn] at h
      cases h
    simp [hne]
  | ok steps =>
    have related := mapM_eq_ok_iff.mp h
    have hn : steps = [] ↔ segments text.toList = [] := by
      constructor <;> intro hn <;> rw [hn] at related
      · exact List.forall₂_nil_right_iff.mp related
      · exact List.forall₂_nil_left_iff.mp related
    rw [← hn]
    by_cases hs : steps = []
    · simp [hs, eq_comm]
    · simp [hs]

/-- The grammar of steps and of paths. A step is read exactly from a segment of one of four forms,
no two of which share a segment, and the form says which step it is. A path is read exactly from at
least one segment if all of them are steps; otherwise the first one that is none is reported. -/
theorem parse_grammar :
    (∀ segment, (∃ step, PathStep.parse segment = .ok step) ↔
      segment ∈ StepForm.wildcard ∨ segment ∈ StepForm.name ∨ segment ∈ StepForm.index ∨
        segment ∈ StepForm.bracketed ∧ StepForm.HasPattern segment) ∧
    [StepForm.wildcard, StepForm.name, StepForm.index, StepForm.bracketed].Pairwise Disjoint ∧
    (∀ segment step, PathStep.parse segment = .ok step ↔ StepForm.Denotes segment step) ∧
    ∀ text : String,
      ((∃ path, parse text = .ok path) ↔ segments text.toList ≠ [] ∧
        ∀ segment ∈ segments text.toList, ∃ step, PathStep.parse segment = .ok step) ∧
      (∀ path, parse text = .ok path ↔
        List.Forall₂ (fun segment step => PathStep.parse segment = .ok step)
          (segments text.toList) path.steps) ∧
      ∀ e, parse text = .error e ↔
        (segments text.toList = [] ∧ e = .illFormed (.emptyPath text)) ∨
        ∃ before segment after, segments text.toList = before ++ segment :: after ∧
          (∀ s ∈ before, ∃ step, PathStep.parse s = .ok step) ∧
          PathStep.parse segment = .error e := by
  refine ⟨fun _ => StepForm.exists_parse_iff, ?_, fun _ _ => StepForm.parse_eq_ok_iff,
    fun _ => ⟨exists_parse_iff, fun _ => parse_eq_ok_iff, fun _ => parse_eq_error_iff⟩⟩
  simp only [List.pairwise_cons, List.mem_cons, List.not_mem_nil, or_false, forall_eq_or_imp,
    forall_eq, IsEmpty.forall_iff, implies_true, List.Pairwise.nil, and_true]
  exact ⟨⟨StepForm.wildcard_disjoint_name, StepForm.wildcard_disjoint_index,
      StepForm.wildcard_disjoint_bracketed⟩,
    ⟨StepForm.name_disjoint_index, StepForm.name_disjoint_bracketed⟩,
    StepForm.index_disjoint_bracketed⟩

theorem parse_grammar_mixed :
    PathStep.parse "CHILD[007]".toList = .ok (.index 7) ∧
      parse "a//CHILD[007]/1b/2c" = .error (.illFormed (.illegalStep "1b")) := by
  have word : "CHILD".toList ∈ StepForm.childWord := StepForm.mem_childWord_iff.mpr (by decide)
  have digits : "007".toList ∈ StepForm.digitRow := StepForm.mem_digitRow_iff.mpr (by decide)
  have index : PathStep.parse "CHILD[007]".toList = .ok (.index 7) :=
    (parse_grammar.2.2.1 _ _).mpr (.index word digits)
  refine ⟨index, ((parse_grammar.2.2.2 _).2.2 _).mpr (Or.inr ?_)⟩
  refine ⟨["a".toList, "CHILD[007]".toList], "1b".toList, ["2c".toList], by decide, ?_, by rfl⟩
  rintro s hs
  rcases List.mem_pair.mp hs with rfl | rfl
  · exact ⟨_, rfl⟩
  · exact ⟨_, index⟩

end Path

end WidgetLocator
