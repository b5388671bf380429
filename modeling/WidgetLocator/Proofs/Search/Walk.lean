import WidgetLocator.Proofs.Search.Evaluation

namespace WidgetLocator

/-- A value that is neither an object nor nothing. -/
def Value.IsScalar {ν : Type} : Value ν → Prop
  | .bool _ | .number _ | .text _ => True
  | .undefined | .null | .object _ => False

theorem WidgetGraph.byMember_value {ν : Type} {graph : WidgetGraph ν} {node : ν} {name : String}
    {value : Value ν} (h : graph.byMember node name = some value) :
    value.IsScalar ∨ ∃ next, value = .object next := by
  unfold byMember at h
  split at h
  next => simp at h
  next => simp at h
  next hu hn =>
    cases value with
    | undefined => exact absurd h hu
    | null => exact absurd h hn
    | object next => exact Or.inr ⟨next, rfl⟩
    | bool | number | text => exact Or.inl trivial

/-- A step that leads to no object leads to a scalar, if to anything. -/
theorem WidgetGraph.takeStep_isScalar {ν : Type} [DecidableEq ν] {graph : WidgetGraph ν}
    {registry : Option (TypeRegistry ν)} {node : ν} {step : PathStep} {value : Value ν}
    (h : graph.takeStep registry node step = .ok (some value)) (hv : value.object? = none) :
    value.IsScalar := by
  have no : ∀ next, .object next ≠ value := by
    rintro next rfl
    simp [Value.object?] at hv
  cases step with
  | wildcard => simp [takeStep, no] at h
  | index index => simp [takeStep, no] at h
  | attr step => simp [takeStep, no] at h
  | name name =>
    by_cases hc : isClassName name = true
    · cases hb : graph.byClass registry node name <;> simp [takeStep, hc, hb, Except.map, no] at h
    · simp only [takeStep, hc] at h
      have hm : graph.byMember node name = some value := by simpa using h
      rcases byMember_value hm with hv | ⟨next, he⟩
      · exact hv
      · exact absurd he.symm (no next)

namespace PathSearch

variable {ν : Type} [DecidableEq ν] {search : PathSearch ν}

/-- Steps that are no wildcards lead from a node to another one, each to an object. -/
inductive Walk (search : PathSearch ν) : ν → List PathStep → ν → Prop
  | here {node : ν} : Walk search node [] node
  | step {node next last : ν} {step : PathStep} {steps : List PathStep} : step ≠ .wildcard →
      search.graph.takeStep search.registry node step = .ok (some (.object next)) →
      Walk search next steps last → Walk search node (step :: steps) last

/-- What is made of the outcome of the rest of a path after steps were taken. -/
def afterSteps (before : List PathStep) : Resolution ν → Resolution ν
  | .error (.unresolved steps) => .error (.unresolved (before ++ steps))
  | outcome => outcome

variable {node last root : ν} {before rest steps : List PathStep} {step : PathStep} {path : Path}
variable {outcome : Resolution ν}

theorem Walk.not_mem_wildcard (h : search.Walk node before last) : .wildcard ∉ before := by
  induction h with
  | here => simp
  | step hs _ _ ih =>
    intro hm
    rcases List.mem_cons.mp hm with he | hm
    · exact hs he.symm
    · exact ih hm

theorem resolveSteps_walk {fuel : Nat} (h : search.Walk node before last) (hne : rest ≠ []) :
    search.resolveSteps (before.length + fuel) node (before ++ rest) [] =
      afterSteps before (search.resolveSteps fuel last rest []) := by
  induction h with
  | @here node =>
    rw [List.length_nil, Nat.zero_add, List.nil_append]
    rcases search.resolveSteps fuel node rest [] with (steps | e) | found <;> rfl
  | @step node next last step steps hs ht _ ih =>
    have hf : (step :: steps).length + fuel = steps.length + fuel + 1 := by
      simp only [List.length_cons]
      omega
    rw [hf, List.cons_append, resolveSteps_of_object hs (by simp [hne]) ht, ih]
    rcases search.resolveSteps fuel last rest [] with (steps | e) | found <;> rfl

/-- A search with an end comes to what the rest of its path comes to at the end of a walk. -/
theorem Returns.after_walk (h : search.Returns root path outcome) (hp : path.steps = before ++ rest)
    (hne : rest ≠ []) (w : search.Walk root before last) :
    ∃ fuel, search.resolveSteps (fuel + 1) last rest [] ≠ endless ∧
      outcome = afterSteps before (search.resolveSteps (fuel + 1) last rest []) := by
  obtain ⟨hend, fuel, rfl⟩ := h
  have deeper := resolveSteps_mono (by omega : fuel ≤ before.length + (fuel + 1)) hend
  rw [hp, resolveSteps_walk w hne] at deeper
  refine ⟨fuel, fun he => hend ?_, hp ▸ deeper.symm⟩
  rw [hp, ← deeper, he]
  rfl

theorem resolveSteps_full_walk {fuel : Nat} (h : search.Walk node steps last) (hne : steps ≠ []) :
    search.resolveSteps (steps.length + fuel) node steps [] = .ok (some last) := by
  induction h with
  | here => exact absurd rfl hne
  | @step node next last step steps hs ht w ih =>
    have hf : (step :: steps).length + fuel = steps.length + fuel + 1 := by
      simp only [List.length_cons]
      omega
    rw [hf]
    by_cases hn : steps = []
    · subst hn
      cases w
      exact resolveSteps_of_last hs ht
    · rw [resolveSteps_of_object hs hn ht, ih hn]
      rfl

theorem Returns.of_full_walk (h : search.Returns root path outcome)
    (w : search.Walk root path.steps last) : outcome = .ok (some last) := by
  obtain ⟨hend, fuel, rfl⟩ := h
  have deeper := resolveSteps_mono (by omega : fuel ≤ path.steps.length + fuel) hend
  exact deeper.symm.trans (resolveSteps_full_walk w path.nonempty)

/-- A wildcard with more steps after it is unresolved as a whole, if it leads nowhere. -/
theorem resolveSteps_wildcard_cases (search : PathSearch ν) (fuel : Nat) (node : ν)
    (above : List ν) (hne : rest ≠ []) :
    (∃ found, search.resolveSteps (fuel + 1) node (.wildcard :: rest) above = .ok (some found)) ∨
    (∃ e, search.resolveSteps (fuel + 1) node (.wildcard :: rest) above = .error (.fatal e)) ∨
    search.resolveSteps (fuel + 1) node (.wildcard :: rest) above =
      .error (.unresolved [.wildcard]) := by
  by_cases hm : IsMiss (search.resolveSteps fuel node rest [])
  · rw [resolveSteps_wildcard_of_isMiss hne hm]
    rcases firstFound_none_or_branch (fun child => search.resolveSteps fuel child
      (.wildcard :: rest) (search.pushed node above)) (search.below node above) with
      hn | ⟨child, _, hb, hc⟩
    · rw [hn]
      exact Or.inr (Or.inr rfl)
    · rw [hb, wildcardOutcome_of_not_isMiss hc]
      exact (found_or_fatal_of_not_isMiss hc).imp_right Or.inl
  · rw [resolveSteps_wildcard_of_not_isMiss hne hm]
    exact (found_or_fatal_of_not_isMiss hm).imp_right Or.inl

theorem exists_walk (search : PathSearch ν) (node : ν) (steps : List PathStep) :
    (∃ last, search.Walk node steps last) ∨
      ∃ before step after last, steps = before ++ step :: after ∧ search.Walk node before last ∧
        (step = .wildcard ∨ step ≠ .wildcard ∧ ∀ next,
          search.graph.takeStep search.registry last step ≠ .ok (some (.object next))) := by
  induction steps generalizing node with
  | nil => exact Or.inl ⟨node, .here⟩
  | cons step steps ih =>
    by_cases hs : step = .wildcard
    · exact Or.inr ⟨[], step, steps, node, rfl, .here, Or.inl hs⟩
    by_cases ht : ∃ next, search.graph.takeStep search.registry node step = .ok (some (.object next))
    · obtain ⟨next, ht⟩ := ht
      rcases ih next with ⟨last, w⟩ | ⟨before, other, after, last, rfl, w, hw⟩
      · exact Or.inl ⟨last, .step hs ht w⟩
      · exact Or.inr ⟨step :: before, other, after, last, rfl, .step hs ht w, hw⟩
    · exact Or.inr ⟨[], step, steps, node, rfl, .here, Or.inr ⟨hs, not_exists.mp ht⟩⟩

theorem Returns.at_dead_end {after : List PathStep} (h : search.Returns root path outcome)
    (hp : path.steps = before ++ step :: after) (w : search.Walk root before last)
    (hs : step ≠ .wildcard)
    (no : ∀ next, search.graph.takeStep search.registry last step ≠ .ok (some (.object next))) :
    (search.graph.takeStep search.registry last step = .ok none ∧
      outcome = .error (.unresolved (before ++ [step]))) ∨
    (∃ value, search.graph.takeStep search.registry last step = .ok (some value) ∧
      value.IsScalar ∧ outcome = .ok none) ∨
    ∃ name, step = .name name ∧ isClassName name = true ∧ search.registry = none ∧
      search.graph.takeStep search.registry last step = .error (.registryUnavailable name) ∧
      outcome = .error (.fatal (.registryUnavailable name)) := by
  obtain ⟨fuel, _, ho⟩ := h.after_walk hp (by simp) w
  cases search.turn last (step :: after) with
  | loneWildcard | wildcard => exact absurd rfl hs
  | last _ ht | object _ _ ht => exact absurd ht (no _)
  | nothing _ ht =>
    rw [resolveSteps_of_nothing hs ht] at ho
    exact Or.inl ⟨ht, ho⟩
  | scalar _ ht hv =>
    rw [resolveSteps_of_scalar hs ht hv] at ho
    exact Or.inr (Or.inl ⟨_, ht, WidgetGraph.takeStep_isScalar ht hv, ho⟩)
  | failure _ ht =>
    rw [resolveSteps_of_error hs ht] at ho
    obtain ⟨hr, name, hn, hc, rfl⟩ := WidgetGraph.takeStep_eq_error_iff.mp ht
    exact Or.inr (Or.inr ⟨name, hn, hc, hr, ht, ho⟩)

theorem Returns.at_last_wildcard (h : search.Returns root path outcome)
    (hp : path.steps = before ++ [.wildcard]) (w : search.Walk root before last) :
    outcome = .ok (some last) := by
  obtain ⟨fuel, _, ho⟩ := h.after_walk hp (by simp) w
  exact ho

theorem Returns.at_wildcard (h : search.Returns root path outcome) (hne : rest ≠ [])
    (hp : path.steps = before ++ .wildcard :: rest) (w : search.Walk root before last) :
    (∃ found, outcome = .ok (some found)) ∨ (∃ e, outcome = .error (.fatal e)) ∨
      outcome = .error (.unresolved (before ++ [.wildcard])) := by
  obtain ⟨fuel, _, ho⟩ := h.after_walk hp (by simp) w
  rcases search.resolveSteps_wildcard_cases fuel last [] hne with ⟨found, hc⟩ | ⟨e, hc⟩ | hc
  · exact Or.inl ⟨found, by rw [ho, hc]; rfl⟩
  · exact Or.inr (Or.inl ⟨e, by rw [ho, hc]; rfl⟩)
  · exact Or.inr (Or.inr (by rw [ho, hc]; rfl))

theorem Returns.unresolved_prefix (h : search.Returns root path (.error (.unresolved steps))) :
    steps ≠ [] ∧ steps <+: path.steps ∧ .wildcard ∉ steps.dropLast := by
  have reported : ∀ {before after : List PathStep} {step : PathStep} {last : ν},
      path.steps = before ++ step :: after → search.Walk root before last →
      steps = before ++ [step] →
      steps ≠ [] ∧ steps <+: path.steps ∧ .wildcard ∉ steps.dropLast := by
    rintro before after step last hp w rfl
    refine ⟨by simp, ⟨after, by simp [hp]⟩, ?_⟩
    simpa using w.not_mem_wildcard
  rcases search.exists_walk root path.steps with
    ⟨last, w⟩ | ⟨before, step, after, last, hp, w, rfl | ⟨hs, no⟩⟩
  · simpa using h.of_full_walk w
  · by_cases hne : after = []
    · subst hne
      simpa using h.at_last_wildcard hp w
    · rcases h.at_wildcard hne hp w with ⟨found, ho⟩ | ⟨e, ho⟩ | ho
      · simp at ho
      · simp at ho
      · simp only [Except.error.injEq, Dead.unresolved.injEq] at ho
        exact reported hp w ho
  · rcases h.at_dead_end hp w hs no with ⟨_, ho⟩ | ⟨value, _, _, ho⟩ | ⟨name, _, _, _, _, ho⟩
    · simp only [Except.error.injEq, Dead.unresolved.injEq] at ho
      exact reported hp w ho
    · simp at ho
    · simp at ho

/-- What a search with an end comes to. The walk along its steps ends at a step that leads to no
object, at the end of the path, or at the first wildcard. -/
theorem outcome_of_walk (h : search.Returns root path outcome) :
    (∀ before step after last, path.steps = before ++ step :: after → step ≠ .wildcard →
      search.Walk root before last →
      (∀ next, search.graph.takeStep search.registry last step ≠ .ok (some (.object next))) →
      (search.graph.takeStep search.registry last step = .ok none ∧
        outcome = .error (.unresolved (before ++ [step]))) ∨
      (∃ value, search.graph.takeStep search.registry last step = .ok (some value) ∧
        value.IsScalar ∧ outcome = .ok none) ∨
      ∃ name, step = .name name ∧ isClassName name = true ∧ search.registry = none ∧
        search.graph.takeStep search.registry last step = .error (.registryUnavailable name) ∧
        outcome = .error (.fatal (.registryUnavailable name))) ∧
    (∀ last, search.Walk root path.steps last → outcome = .ok (some last)) ∧
    (∀ before last, path.steps = before ++ [.wildcard] → search.Walk root before last →
      outcome = .ok (some last)) ∧
    (∀ before rest last, path.steps = before ++ .wildcard :: rest → rest ≠ [] →
      search.Walk root before last →
      (∃ found, outcome = .ok (some found)) ∨ (∃ e, outcome = .error (.fatal e)) ∨
        outcome = .error (.unresolved (before ++ [.wildcard]))) ∧
    ∀ suffix, outcome = .error (.unresolved suffix) →
      suffix ≠ [] ∧ suffix <+: path.steps ∧ .wildcard ∉ suffix.dropLast := by
  refine ⟨fun before step after last hp hs w no => h.at_dead_end hp w hs no,
    fun last w => h.of_full_walk w, fun before last hp w => h.at_last_wildcard hp w,
    fun before rest last hp hne w => h.at_wildcard hne hp w, ?_⟩
  rintro suffix rfl
  exact h.unresolved_prefix

theorem outcome_of_walk_entangled :
    (entangled true).Returns 0 ⟨[.index 1, .wildcard, .index 7], by simp⟩
        (.error (.unresolved [.index 1, .wildcard])) ∧
      [PathStep.index 1, .wildcard] <+: [.index 1, .wildcard, .index 7] := by
  have returns : (entangled true).Returns 0 ⟨[.index 1, .wildcard, .index 7], by simp⟩
      (.error (.unresolved [.index 1, .wildcard])) := ⟨by simp, 16, rfl⟩
  obtain ⟨_, _, _, _, reported⟩ := outcome_of_walk returns
  exact ⟨returns, (reported _ rfl).2.1⟩

end PathSearch
end WidgetLocator
