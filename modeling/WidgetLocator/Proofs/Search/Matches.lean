import WidgetLocator.Proofs.Search.Evaluation

namespace WidgetLocator
namespace PathSearch

variable {ν : Type} [DecidableEq ν] {search : PathSearch ν}
variable {fuel : Nat} {node found : ν} {step : PathStep} {steps : List PathStep} {above : List ν}

/-- Steps lead from a node to another one. A wildcard does so by any number of moves down. -/
inductive Matches (search : PathSearch ν) : ν → List PathStep → ν → Prop
  | done {node : ν} : Matches search node [] node
  | step {node next last : ν} {step : PathStep} {steps : List PathStep} : step ≠ .wildcard →
      search.graph.takeStep search.registry node step = .ok (some (.object next)) →
      Matches search next steps last → Matches search node (step :: steps) last
  | stay {node last : ν} {steps : List PathStep} : Matches search node steps last →
      Matches search node (.wildcard :: steps) last
  | down {node child last : ν} {steps : List PathStep} : child ∈ search.graph.descendants node →
      Matches search child (.wildcard :: steps) last →
      Matches search node (.wildcard :: steps) last

/-- What a search finds is matched by its steps. -/
theorem matches_of_found (h : search.resolveSteps fuel node steps above = .ok (some found)) :
    search.Matches node steps found := by
  induction fuel generalizing node steps above with
  | zero => cases h
  | succ fuel ih =>
    cases search.turn node steps with
    | done => cases h
    | loneWildcard =>
      cases h
      exact .stay .done
    | failure hs ht =>
      rw [resolveSteps_of_error hs ht] at h
      cases h
    | nothing hs ht =>
      rw [resolveSteps_of_nothing hs ht] at h
      cases h
    | scalar hs ht hv =>
      rw [resolveSteps_of_scalar hs ht hv] at h
      cases h
    | last hs ht =>
      rw [resolveSteps_of_last hs ht] at h
      cases h
      exact .step hs ht .done
    | object hs hne ht =>
      rw [resolveSteps_of_object hs hne ht] at h
      exact .step hs ht (ih (afterStep_eq_some.mp h))
    | @wildcard rest hne =>
      by_cases hm : IsMiss (search.resolveSteps fuel node rest [])
      · rw [resolveSteps_wildcard_of_isMiss hne hm] at h
        have hb := wildcardOutcome_eq_some.mp h
        rcases firstFound_none_or_branch _ (search.below node above) with none | ⟨child, hc, he, _⟩
        · rw [none] at hb
          cases hb
        · have descends : child ∈ search.graph.descendants node := (List.mem_filter.mp hc).1
          exact .down descends (ih (he.symm.trans hb))
      · rw [resolveSteps_wildcard_of_not_isMiss hne hm] at h
        exact .stay (ih h)

/-- Each step of a matching path leads from some node to some other. -/
theorem Matches.taken (h : search.Matches node steps found) (hs : step ∈ steps) :
    ∃ v next, search.graph.takeStep search.registry v step = .ok (some (.object next)) := by
  induction h with
  | done => cases hs
  | @step v next last first steps _ ht _ ih =>
    rcases List.mem_cons.mp hs with rfl | hs
    · exact ⟨v, next, ht⟩
    · exact ih hs
  | @stay v last steps _ ih =>
    rcases List.mem_cons.mp hs with rfl | hs
    · exact ⟨v, v, rfl⟩
    · exact ih hs
  | down _ _ ih => exact ih hs

end PathSearch

end WidgetLocator
