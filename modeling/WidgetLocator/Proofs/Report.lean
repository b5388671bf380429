import WidgetLocator.Proofs.Path.RoundTrip
import WidgetLocator.Proofs.Search.Matches
import WidgetLocator.Report

namespace WidgetLocator

theorem PathStep.kind_eq_never_iff {step : PathStep} :
    step.kind = .never ↔ ∃ raw, step = .attr ⟨raw, none⟩ := by
  cases step with
  | wildcard => simp [kind]
  | name name =>
    by_cases hc : isClassName name = true <;> simp [kind, hc]
  | index index => simp [kind]
  | attr written =>
    obtain ⟨raw, _ | ⟨key, pattern⟩⟩ := written
    · simp [kind]
    · cases pattern <;> simp [kind]

theorem StepKind.name_eq_never_iff {kind : StepKind} : kind.name = "never" ↔ kind = .never := by
  cases kind <;> decide

/-- A step that is reported to lead nowhere leads from no node to anything. -/
theorem WidgetGraph.takeStep_of_never {ν : Type} [DecidableEq ν] {graph : WidgetGraph ν}
    {registry : Option (TypeRegistry ν)} {step : PathStep} (h : step.kind = .never) (node : ν) :
    graph.takeStep registry node step = .ok none := by
  obtain ⟨raw, rfl⟩ := PathStep.kind_eq_never_iff.mp h
  rfl

theorem PathSearch.not_found_of_never {ν : Type} [DecidableEq ν] {search : PathSearch ν}
    {steps : List PathStep} {step : PathStep} (hs : step ∈ steps) (h : step.kind = .never)
    {fuel : Nat} {node found : ν} {above : List ν} :
    search.resolveSteps fuel node steps above ≠ .ok (some found) := by
  intro hf
  obtain ⟨v, next, ht⟩ := (matches_of_found hf).taken hs
  rw [WidgetGraph.takeStep_of_never h] at ht
  cases ht

namespace Path

variable {text : String} {path : Path} {line : StepReport}

theorem exists_step_of_report (h : line ∈ path.report) :
    ∃ step ∈ path.steps, line.kind = step.kind ∧ line.step = step.text := by
  obtain ⟨step, hs, rfl⟩ := List.mem_map.mp h
  exact ⟨step, hs, rfl, rfl⟩

/-- A step that leads nowhere was read from a segment that names no attribute. -/
theorem segment_of_never (parsed : parse text = .ok path) {step : PathStep} (hs : step ∈ path.steps)
    (h : step.kind = .never) : ∃ segment ∈ segments text.toList,
      String.ofList segment = step.text ∧ selectedAttribute? segment = none := by
  obtain ⟨segment, hm, denotes⟩ := exists_segment parsed hs
  obtain ⟨raw, rfl⟩ := PathStep.kind_eq_never_iff.mp h
  cases denotes with
  | attr _ hp =>
    refine ⟨segment, hm, rfl, ?_⟩
    unfold attributePredicate at hp
    split at hp
    next none => exact none
    next => cases hp
    next =>
      dsimp only at hp
      split at hp <;> cases hp

/-- A step of a path that is reported to lead nowhere is one that names no attribute, and the path
finds nothing then, in no graph, with any registry or none, with and without the guard, wherever the
step stands among wildcards. -/
theorem finds_nothing_of_never (parsed : parse text = .ok path) (reported : line ∈ path.report)
    (never : line.kind.name = "never") :
    (∃ segment ∈ segments text.toList,
      String.ofList segment = line.step ∧ selectedAttribute? segment = none) ∧
    ∀ {ν : Type} [DecidableEq ν] (search : PathSearch ν) (root found : ν),
      ¬search.Returns root path (.ok (some found)) ∧
        ∀ nodes, search.resolve nodes root path ≠ .ok (some found) := by
  obtain ⟨step, hs, hk, ht⟩ := exists_step_of_report reported
  have dead : step.kind = .never := hk ▸ StepKind.name_eq_never_iff.mp never
  refine ⟨ht ▸ segment_of_never parsed hs dead, ?_⟩
  intro ν _ search root found
  refine ⟨?_, fun nodes => PathSearch.not_found_of_never hs dead⟩
  rintro ⟨_, fuel, hf⟩
  exact PathSearch.not_found_of_never hs dead hf

theorem finds_nothing_of_never_entangled :
    ∃ path, parse "*/[@]//*" = .ok path ∧ ⟨.never, "[@]"⟩ ∈ path.report ∧
      (∀ found, ¬(PathSearch.entangled true).Returns 0 path (.ok (some found))) ∧
      (PathSearch.entangled true).Returns 0 path (.error (.unresolved [.wildcard])) := by
  let path : Path := ⟨[.wildcard, .attr ⟨"[@]", none⟩, .wildcard], by simp⟩
  have parsed : parse "*/[@]//*" = .ok path := rfl
  have reported : ⟨.never, "[@]"⟩ ∈ path.report := by decide
  have nothing := (finds_nothing_of_never parsed reported rfl).2 (PathSearch.entangled true) 0
  exact ⟨path, parsed, reported, fun found => (nothing found).1, by simp, 16, rfl⟩

end Path
end WidgetLocator
