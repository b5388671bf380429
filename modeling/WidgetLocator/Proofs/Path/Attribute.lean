import WidgetLocator.Proofs.Path.Grammar

namespace WidgetLocator

theorem Pattern.text_of_ofText? {text : String} {pattern : Pattern}
    (h : Pattern.ofText? text = some pattern) : pattern.text = text := by
  unfold ofText? at h
  split at h
  next =>
    cases h
    rfl
  next => cases h

section Marks

variable {β : Type} {f : List Char → Option β} {b : β} {text : List Char}

/-- The first place of a mark at which something is found. -/
theorem findSome?_afterMarks_eq_some_iff : (afterMarks text).findSome? f = some b ↔
    ∃ place rest, text.drop place = '[' :: '@' :: rest ∧ f rest = some b ∧
      ∀ earlier < place, ∀ rest, text.drop earlier = '[' :: '@' :: rest → f rest = none := by
  fun_induction afterMarks text with
  | case1 rest ih =>
    rw [List.findSome?_cons]
    cases hf : f rest with
    | some found =>
      constructor
      · intro same
        exact ⟨0, rest, rfl, hf.trans same, nofun⟩
      · rintro ⟨place, rest', hd, hb, before⟩
        cases place with
        | zero =>
          cases hd
          exact hf.symm.trans hb
        | succ place =>
          have passed := before 0 place.succ_pos rest rfl
          rw [hf] at passed
          cases passed
    | none =>
      -- a mark takes two characters, and none starts at the second of them
      refine ih.trans ⟨?_, ?_⟩
      · rintro ⟨place, rest', hd, hb, before⟩
        refine ⟨place + 2, rest', hd, hb, ?_⟩
        rintro (_ | _ | earlier) lt rest'' he
        · cases he
          exact hf
        · cases he
        · exact before earlier (by omega) rest'' he
      · rintro ⟨_ | _ | place, rest', hd, hb, before⟩
        · cases hd
          rw [hf] at hb
          cases hb
        · cases hd
        · refine ⟨place, rest', hd, hb, fun earlier lt => ?_⟩
          exact before (earlier + 2) (by omega)
  | case2 c rest unmarked ih =>
    refine ih.trans ⟨?_, ?_⟩
    · rintro ⟨place, rest', hd, hb, before⟩
      refine ⟨place + 1, rest', hd, hb, ?_⟩
      rintro (_ | earlier) lt rest'' he
      · obtain ⟨rfl, rfl⟩ := List.cons.inj he
        exact absurd rfl (unmarked rest'' rfl)
      · exact before earlier (by omega) rest'' he
    · rintro ⟨_ | place, rest', hd, hb, before⟩
      · obtain ⟨rfl, rfl⟩ := List.cons.inj hd
        exact absurd rfl (unmarked rest' rfl)
      · exact ⟨place, rest', hd, hb, fun earlier lt => before (earlier + 1) (by omega)⟩
  | case3 => simp

theorem findSome?_afterMarks_eq_none_iff : (afterMarks text).findSome? f = none ↔
    ∀ place rest, text.drop place = '[' :: '@' :: rest → f rest = none := by
  constructor
  · intro h place
    induction place using Nat.strong_induction_on with
    | _ place before =>
      intro rest hd
      refine Option.eq_none_iff_forall_ne_some.mpr fun b hb => ?_
      have found := findSome?_afterMarks_eq_some_iff.mpr ⟨place, rest, hd, hb, before⟩
      rw [h] at found
      cases found
  · intro h
    refine Option.eq_none_iff_forall_ne_some.mpr fun b found => ?_
    obtain ⟨place, rest, hd, hb, _⟩ := findSome?_afterMarks_eq_some_iff.mp found
    rw [h place rest hd] at hb
    cases hb

end Marks

namespace StepForm

/-- At a place of a segment stands `[@`, and then a body up to the bracket at the end. -/
def MarksAt (segment : List Char) (place : Nat) (body : List Char) : Prop :=
  segment.drop place = '[' :: '@' :: (body ++ [']'])

/-- A body is a key, or a key and a value with the first equals sign between them. -/
inductive Splits : List Char → List Char → Option (List Char) → Prop
  | key {key : List Char} : '=' ∉ key → Splits key key none
  | value {key value : List Char} : '=' ∉ key → Splits (key ++ '=' :: value) key (some value)

/-- A segment names an attribute at a place, perhaps with a value; neither of them is empty. -/
def NamesAt (segment : List Char) (place : Nat) (key : List Char) (value : Option (List Char)) :
    Prop :=
  ∃ body, MarksAt segment place body ∧ Splits body key value ∧ key ≠ [] ∧ value ≠ some []

/-- A segment names an attribute at the first place at which it names any. -/
def Selects (segment key : List Char) (value : Option (List Char)) : Prop :=
  ∃ place, NamesAt segment place key value ∧
    ∀ earlier < place, ∀ key value, ¬NamesAt segment earlier key value

def IsQuote (c : Char) : Prop :=
  c = '\'' ∨ c = '"'

/-- The text of a value, which may stand between two quotes, alike or not. -/
inductive Unquotes : List Char → List Char → Prop
  | quoted {text : List Char} {first last : Char} : IsQuote first → IsQuote last →
      Unquotes (first :: text ++ [last]) text
  | bare {value : List Char} :
      (∀ first text last, IsQuote first → IsQuote last → value ≠ first :: text ++ [last]) →
      Unquotes value value

/-- The predicate that a segment states with the attribute that it selects. -/
inductive States (segment : List Char) : Option AttributePredicate → Prop
  | nothing : (∀ place key value, ¬NamesAt segment place key value) → States segment none
  | key {key : List Char} : Selects segment key none → States segment (some ⟨String.ofList key, none⟩)
  | pattern {key value text : List Char} {pattern : Pattern} : Selects segment key (some value) →
      Unquotes value text → Pattern.ofText? (String.ofList text) = some pattern →
      pattern.text = String.ofList text → States segment (some ⟨String.ofList key, some pattern⟩)

variable {segment body rest key text : List Char} {value : Option (List Char)} {place : Nat}

theorem keyAndValue?_eq_some_iff : keyAndValue? body = some (key, value) ↔
    Splits body key value ∧ key ≠ [] ∧ value ≠ some [] := by
  unfold keyAndValue?
  cases hs : splitAtFirst '=' body with
  | none =>
    have plain : '=' ∉ body := splitAtFirst_eq_none_iff.mp hs
    simp only [Option.ite_none_left_eq_some, Option.some.injEq, Prod.mk.injEq]
    constructor
    · rintro ⟨hne, rfl, rfl⟩
      exact ⟨.key plain, hne, nofun⟩
    · rintro ⟨split, hne, -⟩
      cases split with
      | key => exact ⟨hne, rfl, rfl⟩
      | value => exact absurd (by simp) plain
  | some parts =>
    obtain ⟨first, others⟩ := parts
    obtain ⟨rfl, plain⟩ := splitAtFirst_eq_some_iff.mp hs
    simp only [Option.ite_none_left_eq_some, Option.some.injEq, Prod.mk.injEq, not_or]
    constructor
    · rintro ⟨⟨hk, hv⟩, rfl, rfl⟩
      exact ⟨.value plain, hk, fun he => hv (Option.some.inj he)⟩
    · rintro ⟨split, hk, hv⟩
      generalize whole : first ++ '=' :: others = body at hs split
      cases split with
      | key unsplit => exact absurd (whole ▸ by simp) unsplit
      | value unsplit =>
        rw [splitAtFirst_eq_some_iff.mpr ⟨rfl, unsplit⟩] at hs
        cases hs
        exact ⟨⟨hk, fun he => hv (congrArg some he)⟩, rfl, rfl⟩

theorem marksAt_dropLast (h : segment ∈ bracketed)
    (hd : segment.drop place = '[' :: '@' :: rest) : MarksAt segment place rest.dropLast := by
  have last : (segment.drop place).getLast? = some ']' := by
    have inside : ¬segment.length ≤ place := by
      intro past
      rw [List.drop_eq_nil_of_le past] at hd
      cases hd
    rw [List.getLast?_drop, if_neg inside]
    exact h.2
  have hr : rest.getLast? = some ']' := by
    rw [hd] at last
    cases rest with
    | nil => exact absurd last (by decide)
    | cons c rest => simpa using last
  rw [MarksAt, hd, List.dropLast_append_getLast? _ hr]

theorem namesAt_iff (h : segment ∈ bracketed) (hd : segment.drop place = '[' :: '@' :: rest) :
    NamesAt segment place key value ↔ keyAndValue? rest.dropLast = some (key, value) := by
  rw [keyAndValue?_eq_some_iff]
  constructor
  · rintro ⟨body, marks, named⟩
    have same := List.append_cancel_right
      (List.cons.inj (List.cons.inj (marks.symm.trans (marksAt_dropLast h hd))).2).2
    rwa [← same]
  · intro named
    exact ⟨_, marksAt_dropLast h hd, named⟩

theorem NamesAt.exists_rest (h : NamesAt segment place key value) :
    ∃ rest, segment.drop place = '[' :: '@' :: rest := by
  obtain ⟨body, marks, _⟩ := h
  exact ⟨_, marks⟩

theorem names_nothing_iff (h : segment ∈ bracketed) :
    (∀ key value, ¬NamesAt segment place key value) ↔
      ∀ rest, segment.drop place = '[' :: '@' :: rest → keyAndValue? rest.dropLast = none := by
  constructor
  · intro nothing rest hd
    refine Option.eq_none_iff_forall_ne_some.mpr fun ⟨key, value⟩ hk => ?_
    exact nothing key value ((namesAt_iff h hd).mpr hk)
  · intro nothing key value named
    obtain ⟨rest, hd⟩ := named.exists_rest
    have found := (namesAt_iff h hd).mp named
    rw [nothing rest hd] at found
    cases found

theorem selectedAttribute?_eq_some_iff (h : segment ∈ bracketed) :
    selectedAttribute? segment = some (key, value) ↔ Selects segment key value := by
  rw [selectedAttribute?, findSome?_afterMarks_eq_some_iff]
  constructor
  · rintro ⟨place, rest, hd, hk, before⟩
    refine ⟨place, (namesAt_iff h hd).mpr hk, fun earlier lt => ?_⟩
    exact (names_nothing_iff h).mpr (before earlier lt)
  · rintro ⟨place, named, before⟩
    obtain ⟨rest, hd⟩ := named.exists_rest
    refine ⟨place, rest, hd, (namesAt_iff h hd).mp named, fun earlier lt => ?_⟩
    exact (names_nothing_iff h).mp (before earlier lt)

theorem selectedAttribute?_eq_none_iff (h : segment ∈ bracketed) :
    selectedAttribute? segment = none ↔ ∀ place key value, ¬NamesAt segment place key value := by
  rw [selectedAttribute?, findSome?_afterMarks_eq_none_iff]
  exact forall_congr' fun _ => (names_nothing_iff h).symm

theorem isQuote_iff {c : Char} : IsQuote c ↔ isQuote c = true := by
  simp [IsQuote, isQuote]

theorem unquoted_between {first last : Char} (hf : IsQuote first) (hl : IsQuote last) :
    unquoted (first :: text ++ [last]) = text := by
  have quotes : 2 ≤ (first :: text ++ [last]).length ∧
      (first :: text ++ [last]).head?.any isQuote ∧ (first :: text ++ [last]).getLast?.any isQuote := by
    rw [List.getLast?_concat]
    simp [isQuote_iff.mp hf, isQuote_iff.mp hl]
  rw [unquoted, if_pos quotes]
  simp

theorem unquoted_of_bare {value : List Char} (bare : ∀ first text last,
    IsQuote first → IsQuote last → value ≠ first :: text ++ [last]) : unquoted value = value := by
  refine if_neg ?_
  rintro ⟨long, starts, ends⟩
  obtain ⟨first, hh, hf⟩ := (Option.any_eq_true _ _).mp starts
  obtain ⟨last, he, hl⟩ := (Option.any_eq_true _ _).mp ends
  obtain ⟨text, rfl⟩ := List.head?_eq_some_iff.mp hh
  obtain ⟨start, whole⟩ := List.getLast?_eq_some_iff.mp he
  cases start with
  | nil =>
    rw [whole] at long
    exact absurd long (by simp)
  | cons c start =>
    obtain ⟨rfl, rfl⟩ := List.cons.inj whole
    exact bare first start last (isQuote_iff.mpr hf) (isQuote_iff.mpr hl) rfl

theorem unquotes_unquoted (value : List Char) : Unquotes value (unquoted value) := by
  by_cases quotes : ∃ first text last, IsQuote first ∧ IsQuote last ∧ value = first :: text ++ [last]
  · obtain ⟨first, text, last, hf, hl, rfl⟩ := quotes
    rw [unquoted_between hf hl]
    exact .quoted hf hl
  · have bare : ∀ first text last, IsQuote first → IsQuote last → value ≠ first :: text ++ [last] :=
      fun first text last hf hl whole => quotes ⟨first, text, last, hf, hl, whole⟩
    rw [unquoted_of_bare bare]
    exact .bare bare

theorem Unquotes.eq_unquoted {value : List Char} (h : Unquotes value text) : text = unquoted value := by
  cases h with
  | quoted hf hl => exact (unquoted_between hf hl).symm
  | bare bare => exact (unquoted_of_bare bare).symm

theorem attributePredicate_eq_ok_iff (h : segment ∈ bracketed) {predicate : Option AttributePredicate} :
    attributePredicate segment = .ok predicate ↔ States segment predicate := by
  constructor
  · intro hp
    unfold attributePredicate at hp
    split at hp
    next hs =>
      cases Except.ok.inj hp
      exact .nothing ((selectedAttribute?_eq_none_iff h).mp hs)
    next key hs =>
      cases Except.ok.inj hp
      exact .key ((selectedAttribute?_eq_some_iff h).mp hs)
    next key value hs =>
      dsimp only at hp
      split at hp
      next pattern read =>
        cases Except.ok.inj hp
        exact .pattern ((selectedAttribute?_eq_some_iff h).mp hs) (unquotes_unquoted value) read
          (Pattern.text_of_ofText? read)
      next => cases hp
  · intro states
    cases states with
    | nothing nothing => rw [attributePredicate, (selectedAttribute?_eq_none_iff h).mpr nothing]
    | key selects => rw [attributePredicate, (selectedAttribute?_eq_some_iff h).mpr selects]
    | pattern selects unquotes read _ =>
      obtain rfl := unquotes.eq_unquoted
      rw [attributePredicate, (selectedAttribute?_eq_some_iff h).mpr selects]
      dsimp only
      rw [read]

theorem attributePredicate_eq_error_iff (h : segment ∈ bracketed) {e : Error} :
    attributePredicate segment = .error e ↔ ∃ key value text, Selects segment key (some value) ∧
      Unquotes value text ∧ Pattern.ofText? (String.ofList text) = none ∧
      e = .illFormed (.badPattern (String.ofList text)) := by
  constructor
  · intro hp
    unfold attributePredicate at hp
    split at hp
    next => cases hp
    next => cases hp
    next key value hs =>
      dsimp only at hp
      split at hp
      next => cases hp
      next unread =>
        cases Except.error.inj hp
        exact ⟨key, value, unquoted value, (selectedAttribute?_eq_some_iff h).mp hs,
          unquotes_unquoted value, unread, rfl⟩
  · rintro ⟨key, value, text, selects, unquotes, unread, rfl⟩
    obtain rfl := unquotes.eq_unquoted
    rw [attributePredicate, (selectedAttribute?_eq_some_iff h).mpr selects]
    dsimp only
    rw [unread]

/-- A segment in brackets names no attribute at all, or selects exactly one. It is read as an attribute
step with the predicate that it states, which is none if it names no attribute; it is not read exactly
if the attribute that it selects has a value whose text is no pattern, and that text is reported. -/
theorem predicate_of_first_attribute (h : segment ∈ bracketed) :
    ((∀ place key value, ¬NamesAt segment place key value) ∨
      ∃! named : List Char × Option (List Char), Selects segment named.1 named.2) ∧
    (∀ step, PathStep.parse segment = .ok step ↔
      ∃ predicate, step = .attr ⟨String.ofList segment, predicate⟩ ∧ States segment predicate) ∧
    ∀ e, PathStep.parse segment = .error e ↔ ∃ key value text, Selects segment key (some value) ∧
      Unquotes value text ∧ Pattern.ofText? (String.ofList text) = none ∧
      e = .illFormed (.badPattern (String.ofList text)) := by
  refine ⟨?_, fun step => ?_, fun e => ?_⟩
  · cases hs : selectedAttribute? segment with
    | none => exact .inl ((selectedAttribute?_eq_none_iff h).mp hs)
    | some named =>
      refine .inr ⟨named, (selectedAttribute?_eq_some_iff h).mp hs, fun other selects => ?_⟩
      have found := (selectedAttribute?_eq_some_iff h).mpr selects
      exact Option.some.inj (found.symm.trans hs)
  · rw [parse_of_bracketed h]
    constructor
    · intro read
      obtain ⟨predicate, hp, rfl⟩ := exists_of_map_eq_ok read
      exact ⟨predicate, rfl, (attributePredicate_eq_ok_iff h).mp hp⟩
    · rintro ⟨predicate, rfl, states⟩
      rw [(attributePredicate_eq_ok_iff h).mpr states]
      rfl
  · rw [parse_of_bracketed h, map_eq_error_iff]
    exact attributePredicate_eq_error_iff h

theorem predicate_of_first_attribute_afterEmptyKey :
    (∃ pattern, pattern.text = ".*" ∧ PathStep.parse "[@=x[@a='.*\"]".toList =
      .ok (.attr ⟨"[@=x[@a='.*\"]", some ⟨"a", some pattern⟩⟩)) ∧
    PathStep.parse "[@=x[@a='([@b\"]".toList = .error (.illFormed (.badPattern "([@b")) := by
  constructor
  · have named : "[@=x[@a='.*\"]".toList ∈ bracketed := ⟨rfl, rfl⟩
    have selects : Selects "[@=x[@a='.*\"]".toList "a".toList (some "'.*\"".toList) :=
      (selectedAttribute?_eq_some_iff named).mp (by decide)
    have unquotes : Unquotes "'.*\"".toList ".*".toList := unquotes_unquoted _
    obtain ⟨pattern, read⟩ : ∃ pattern, Pattern.ofText? ".*" = some pattern :=
      Option.isSome_iff_exists.mp (by decide +kernel)
    have written : pattern.text = ".*" := Pattern.text_of_ofText? read
    have states := States.pattern selects unquotes read written
    exact ⟨pattern, written, ((predicate_of_first_attribute named).2.1 _).mpr ⟨_, rfl, states⟩⟩
  · have named : "[@=x[@a='([@b\"]".toList ∈ bracketed := ⟨rfl, rfl⟩
    have selects : Selects "[@=x[@a='([@b\"]".toList "a".toList (some "'([@b\"".toList) :=
      (selectedAttribute?_eq_some_iff named).mp (by decide)
    have unquotes : Unquotes "'([@b\"".toList "([@b".toList := unquotes_unquoted _
    have unread : Pattern.ofText? "([@b" = none := Option.isNone_iff_eq_none.mp (by decide +kernel)
    exact ((predicate_of_first_attribute named).2.2 _).mpr ⟨_, _, _, selects, unquotes, unread, rfl⟩

end StepForm

end WidgetLocator
