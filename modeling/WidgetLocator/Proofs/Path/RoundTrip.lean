import WidgetLocator.Graph.Resolve
import WidgetLocator.Proofs.Path.Grammar

namespace WidgetLocator

namespace StepForm

variable {segment : List Char} {step : PathStep}

theorem indexOf_le (digits : List Char) : indexOf digits ≤ largestIndex := by
  rw [indexOf_eq]
  exact Nat.min_le_right _ _

theorem digitRow_decimalDigits (n : Nat) : decimalDigits n ∈ digitRow := by
  refine mem_digitRow_iff.mpr ⟨decimalDigits_ne_nil n, List.all_eq_true.mpr fun c hc => ?_⟩
  exact isAsciiDigit_of_mem_decimalDigits hc

theorem indexOf_decimalDigits {n : Nat} (h : n ≤ largestIndex) : indexOf (decimalDigits n) = n := by
  rw [indexOf_eq, decimalValue_decimalDigits]
  exact Nat.min_eq_left h

theorem index_text (n : Nat) : (PathStep.index n).text.toList =
    "child".toList ++ '[' :: decimalDigits n ++ [']'] := by
  have word : "child[".toList = "child".toList ++ ['['] := rfl
  unfold PathStep.text
  rw [String.toList_ofList, word]
  simp

/-- A step is what its own text stands for. -/
theorem Denotes.text (h : Denotes segment step) : Denotes step.text.toList step := by
  cases h with
  | wildcard h => exact .wildcard (mem_oneOf_eq.mpr rfl)
  | name h =>
    have ht : (PathStep.name (String.ofList segment)).text.toList = segment := String.toList_ofList
    rw [ht]
    exact .name h
  | @index word digits _ _ =>
    have word : "child".toList ∈ childWord := mem_childWord_iff.mpr (by decide)
    have again := Denotes.index word (digitRow_decimalDigits (indexOf digits))
    rwa [indexOf_decimalDigits (indexOf_le digits), ← index_text] at again
  | @attr segment predicate h hp =>
    have ht : (PathStep.attr ⟨String.ofList segment, predicate⟩).text.toList = segment :=
      String.toList_ofList
    rw [ht]
    exact .attr h hp

theorem Denotes.ne_nil (h : Denotes segment step) : segment ≠ [] := by
  cases h with
  | wildcard h =>
    rw [mem_oneOf_eq.mp h]
    simp
  | name h =>
    obtain ⟨c, rest, rfl, _⟩ := mem_oneOf_mul.mp h
    simp
  | index _ _ => simp
  | attr h _ =>
    rintro rfl
    cases h.1

theorem Denotes.slash_not_mem_text (h : Denotes segment step) (hs : '/' ∉ segment) :
    '/' ∉ step.text.toList := by
  cases h with
  | wildcard h => decide
  | name h => exact String.toList_ofList ▸ hs
  | attr h hp => exact String.toList_ofList ▸ hs
  | @index _ digits _ _ =>
    rw [index_text, List.append_assoc, List.cons_append]
    intro hm
    rcases List.mem_append.mp hm with hm | hm
    · exact absurd hm (by decide)
    · have hd : '/' ∈ decimalDigits (indexOf digits) := by simpa using hm
      exact absurd (isAsciiDigit_of_mem_decimalDigits hd) (by decide)

end StepForm

namespace PathStep

theorem beq_self (step : PathStep) : (step == step) = true := by
  cases step with
  | wildcard => rfl
  | name n => exact beq_self_eq_true n
  | index n => exact beq_self_eq_true n
  | attr step => exact beq_self_eq_true step.raw

theorem text_eq_of_beq {a b : PathStep} (h : (a == b) = true) : a.text = b.text := by
  cases a with
  | wildcard =>
    cases b with
    | wildcard => rfl
    | name | index | attr => cases h
  | name n =>
    cases b with
    | name m => exact eq_of_beq (α := String) h
    | wildcard | index | attr => cases h
  | index n =>
    cases b with
    | index m => rw [eq_of_beq (α := Nat) h]
    | wildcard | name | attr => cases h
  | attr a =>
    cases b with
    | attr b => exact eq_of_beq (α := String) h
    | wildcard | name | index => cases h

end PathStep

namespace Path

variable {text : String} {path : Path}

theorem toList_text (path : Path) :
    path.text.toList = ['/'].intercalate (path.steps.map fun step => step.text.toList) := by
  unfold Path.text joinSteps
  rw [String.toList_intercalate, List.map_map]
  rfl

theorem exists_segment (h : parse text = .ok path) {step : PathStep} (hs : step ∈ path.steps) :
    ∃ segment ∈ segments text.toList, StepForm.Denotes segment step := by
  obtain ⟨segment, hm, hp⟩ := exists_of_mem_right (parse_eq_ok_iff.mp h) hs
  exact ⟨segment, hm, StepForm.parse_eq_ok_iff.mp hp⟩

theorem segments_text (h : parse text = .ok path) :
    segments path.text.toList = path.steps.map fun step => step.text.toList := by
  rw [toList_text]
  refine segments_intercalate fun part hp => ?_
  obtain ⟨step, hs, rfl⟩ := List.mem_map.mp hp
  obtain ⟨segment, hm, hd⟩ := exists_segment h hs
  exact ⟨hd.text.ne_nil, hd.slash_not_mem_text (of_mem_segments hm).2⟩

/-- A path is read back from its own text. -/
theorem parse_text (h : parse text = .ok path) : parse path.text = .ok path := by
  rw [parse_eq_ok_iff, segments_text h, List.forall₂_map_left_iff, List.forall₂_same]
  intro step hs
  obtain ⟨segment, _, hd⟩ := exists_segment h hs
  exact StepForm.parse_eq_ok_iff.mpr hd.text

theorem eq_of_text_eq {other : String} {path' : Path} (h : parse text = .ok path)
    (h' : parse other = .ok path') (he : path.text = path'.text) : path = path' := by
  have again := parse_text h
  rw [he, parse_text h'] at again
  exact (Except.ok.inj again).symm

theorem text_eq_of_beq {a b : Path} (h : (a == b) = true) : a.text = b.text := by
  have steps : ∀ {xs ys : List PathStep}, (xs == ys) = true →
      xs.map PathStep.text = ys.map PathStep.text := by
    intro xs
    induction xs with
    | nil =>
      intro ys h
      cases ys with
      | nil => rfl
      | cons y ys => cases h
    | cons x xs ih =>
      intro ys h
      cases ys with
      | nil => cases h
      | cons y ys =>
        obtain ⟨hx, hxs⟩ := Bool.and_eq_true_iff.mp h
        rw [List.map_cons, List.map_cons, PathStep.text_eq_of_beq hx, ih hxs]
  exact congrArg "/".intercalate (steps h)

theorem beq_self (path : Path) : (path == path) = true := by
  have : ReflBEq PathStep := ⟨PathStep.beq_self _⟩
  exact beq_self_eq_true path.steps

/-- Paths that were read are equal exactly if they are written alike. -/
theorem beq_iff_text_eq {other : String} {path' : Path} (h : parse text = .ok path)
    (h' : parse other = .ok path') : (path == path') = true ↔ path.text = path'.text := by
  refine ⟨text_eq_of_beq, fun he => ?_⟩
  rw [eq_of_text_eq h h' he]
  exact beq_self path'

end Path

end WidgetLocator
