import WidgetLocator.Graph.Resolve

namespace WidgetLocator

section Outcomes

variable {α ν : Type}

/-- The outcome of a search that is cut off. -/
abbrev endless : Resolution ν :=
  .error (.fatal .endless)

/-- An outcome after which the next branch is tried. -/
def IsMiss (outcome : Resolution ν) : Prop :=
  outcome = .ok none ∨ ∃ steps, outcome = .error (.unresolved steps)

theorem isMiss_none : IsMiss (.ok none : Resolution ν) :=
  Or.inl rfl

theorem isMiss_unresolved (steps : List PathStep) :
    IsMiss (.error (.unresolved steps) : Resolution ν) :=
  Or.inr ⟨steps, rfl⟩

theorem not_isMiss_some (node : ν) : ¬IsMiss (.ok (some node) : Resolution ν) := by
  simp [IsMiss]

theorem not_isMiss_fatal (e : Error) : ¬IsMiss (.error (.fatal e) : Resolution ν) := by
  simp [IsMiss]

theorem IsMiss.ne_endless {outcome : Resolution ν} (h : IsMiss outcome) : outcome ≠ endless := by
  rintro rfl
  exact not_isMiss_fatal _ h

theorem found_or_fatal_of_not_isMiss {outcome : Resolution ν} (h : ¬IsMiss outcome) :
    (∃ node, outcome = .ok (some node)) ∨ ∃ e, outcome = .error (.fatal e) := by
  rcases outcome with (steps | e) | (_ | node)
  · exact absurd (isMiss_unresolved steps) h
  · exact Or.inr ⟨e, rfl⟩
  · exact absurd isMiss_none h
  · exact Or.inl ⟨node, rfl⟩

theorem firstFound_cons_of_isMiss {search : α → Resolution ν} {branch : α} {branches : List α}
    (h : IsMiss (search branch)) :
    firstFound search (branch :: branches) = firstFound search branches := by
  rcases h with h | ⟨steps, h⟩ <;> simp [firstFound, h]

theorem firstFound_cons_of_not_isMiss {search : α → Resolution ν} {branch : α} {branches : List α}
    (h : ¬IsMiss (search branch)) :
    firstFound search (branch :: branches) = search branch := by
  rcases found_or_fatal_of_not_isMiss h with ⟨node, h⟩ | ⟨e, h⟩ <;> simp [firstFound, h]

theorem firstFound_eq_none_iff {search : α → Resolution ν} {branches : List α} :
    firstFound search branches = .ok none ↔ ∀ branch ∈ branches, IsMiss (search branch) := by
  induction branches with
  | nil => simp [firstFound]
  | cons branch branches ih =>
    by_cases h : IsMiss (search branch)
    · simp [firstFound_cons_of_isMiss h, ih, h]
    · rw [firstFound_cons_of_not_isMiss h]
      refine ⟨fun he => absurd (Or.inl he) h, fun hh => absurd (hh branch (by simp)) h⟩

theorem firstFound_none_or_branch (search : α → Resolution ν) (branches : List α) :
    firstFound search branches = .ok none ∨
      ∃ branch ∈ branches, firstFound search branches = search branch ∧
        ¬IsMiss (search branch) := by
  induction branches with
  | nil => exact Or.inl rfl
  | cons branch branches ih =>
    by_cases h : IsMiss (search branch)
    · rw [firstFound_cons_of_isMiss h]
      exact ih.imp_right fun ⟨b, hb, he⟩ => ⟨b, by simp [hb], he⟩
    · exact Or.inr ⟨branch, by simp, firstFound_cons_of_not_isMiss h, h⟩

theorem firstFound_append_of_none {search : α → Resolution ν} {before after : List α}
    (h : firstFound search before = .ok none) :
    firstFound search (before ++ after) = firstFound search after := by
  induction before with
  | nil => rfl
  | cons branch before ih =>
    have misses := firstFound_eq_none_iff.mp h
    have hb := misses branch (by simp)
    rw [List.cons_append, firstFound_cons_of_isMiss hb]
    exact ih (by rwa [firstFound_cons_of_isMiss hb] at h)

theorem firstFound_prefix_eq {search : α → Resolution ν} {before branches : List α}
    (h : firstFound search before ≠ .ok none) (hp : before <+: branches) :
    firstFound search branches = firstFound search before := by
  obtain ⟨after, rfl⟩ := hp
  induction before with
  | nil => exact absurd rfl h
  | cons branch before ih =>
    rw [List.cons_append]
    by_cases hb : IsMiss (search branch)
    · rw [firstFound_cons_of_isMiss hb] at h ⊢
      rw [firstFound_cons_of_isMiss hb]
      exact ih h
    · rw [firstFound_cons_of_not_isMiss hb, firstFound_cons_of_not_isMiss hb]

/-- A branch that is reached in a search with an end has an end itself. -/
theorem ne_endless_of_firstFound_cons {search : α → Resolution ν} {branch : α} {branches : List α}
    (h : firstFound search (branch :: branches) ≠ endless) : search branch ≠ endless := by
  intro he
  rw [firstFound_cons_of_not_isMiss (he ▸ not_isMiss_fatal _)] at h
  exact h he

theorem firstFound_eq_none_of_ends {search : α → Resolution ν} {branches : List α}
    (misses : ∀ branch ∈ branches, search branch ≠ endless → IsMiss (search branch))
    (h : firstFound search branches ≠ endless) : firstFound search branches = .ok none := by
  induction branches with
  | nil => rfl
  | cons branch branches ih =>
    have hb := misses branch (by simp) (ne_endless_of_firstFound_cons h)
    rw [firstFound_cons_of_isMiss hb] at h ⊢
    exact ih (fun b hb => misses b (by simp [hb])) h

/-- Searches that agree wherever the first one has an end have the same outcome, if that has an
end. -/
theorem firstFound_congr {first second : α → Resolution ν} {branches : List α}
    (agree : ∀ branch ∈ branches, first branch ≠ endless → second branch = first branch)
    (h : firstFound first branches ≠ endless) :
    firstFound second branches = firstFound first branches := by
  induction branches with
  | nil => rfl
  | cons branch branches ih =>
    have he := agree branch (by simp) (ne_endless_of_firstFound_cons h)
    by_cases hb : IsMiss (first branch)
    · rw [firstFound_cons_of_isMiss hb] at h ⊢
      rw [firstFound_cons_of_isMiss (he ▸ hb)]
      exact ih (fun b hb => agree b (by simp [hb])) h
    · rw [firstFound_cons_of_not_isMiss hb, firstFound_cons_of_not_isMiss (he ▸ hb), he]

/-- What a wildcard comes to if its branches come to something. -/
def wildcardOutcome : Resolution ν → Resolution ν
  | .ok none => .error (.unresolved [.wildcard])
  | outcome => outcome

theorem wildcardOutcome_of_not_isMiss {outcome : Resolution ν} (h : ¬IsMiss outcome) :
    wildcardOutcome outcome = outcome := by
  rcases found_or_fatal_of_not_isMiss h with ⟨node, rfl⟩ | ⟨e, rfl⟩ <;> rfl

theorem wildcardOutcome_eq_fatal {outcome : Resolution ν} {e : Error} :
    wildcardOutcome outcome = .error (.fatal e) ↔ outcome = .error (.fatal e) := by
  rcases outcome with (steps | e) | (_ | node) <;> simp [wildcardOutcome]

theorem wildcardOutcome_eq_some {outcome : Resolution ν} {node : ν} :
    wildcardOutcome outcome = .ok (some node) ↔ outcome = .ok (some node) := by
  rcases outcome with (steps | e) | (_ | node) <;> simp [wildcardOutcome]

/-- What is made of the outcome of the rest of a path after a step was taken. -/
def afterStep (step : PathStep) : Resolution ν → Resolution ν
  | .error (.unresolved steps) => .error (.unresolved (step :: steps))
  | outcome => outcome

theorem afterStep_eq_fatal {step : PathStep} {outcome : Resolution ν} {e : Error} :
    afterStep step outcome = .error (.fatal e) ↔ outcome = .error (.fatal e) := by
  rcases outcome with (steps | e) | (_ | node) <;> simp [afterStep]

theorem afterStep_eq_some {step : PathStep} {outcome : Resolution ν} {node : ν} :
    afterStep step outcome = .ok (some node) ↔ outcome = .ok (some node) := by
  rcases outcome with (steps | e) | (_ | node) <;> simp [afterStep]

end Outcomes

/-- A graph whose nodes have children and nothing else. -/
def WidgetGraph.ofChildren {ν : Type} (children : ν → List ν) : WidgetGraph ν where
  children node := some ((children node).map .object)
  members _ := []

theorem WidgetGraph.takeStep_eq_error_iff {ν : Type} [DecidableEq ν] {graph : WidgetGraph ν}
    {registry : Option (TypeRegistry ν)} {node : ν} {step : PathStep} {e : Error} :
    graph.takeStep registry node step = .error e ↔
      registry = none ∧ ∃ name, step = .name name ∧ isClassName name = true ∧
        e = .registryUnavailable name := by
  cases step with
  | wildcard => simp [takeStep]
  | index index => simp [takeStep]
  | attr step => simp [takeStep]
  | name name =>
    by_cases hc : isClassName name = true
    · cases registry with
      | none =>
        simp only [takeStep, hc, if_true, byClass, Except.map, Except.error.injEq, true_and,
          PathStep.name.injEq]
        exact ⟨fun h => ⟨name, rfl, hc, h.symm⟩, fun ⟨_, rfl, _, h⟩ => h.symm⟩
      | some registry =>
        cases hn : registry.classByName name <;> simp [takeStep, hc, byClass, hn, Except.map]
    · simp [takeStep, hc]

namespace PathSearch

/-- The nodes that a wildcard at a node keeps its search below it from entering, if it is guarded. -/
def pushed {ν : Type} (search : PathSearch ν) (node : ν) (above : List ν) : List ν :=
  if search.cycleGuard then node :: above else above

theorem pushed_of_guard {ν : Type} {search : PathSearch ν} {node : ν} {above : List ν}
    (hg : search.cycleGuard = true) : search.pushed node above = node :: above := by
  simp [pushed, hg]

variable {ν : Type} [DecidableEq ν] {search : PathSearch ν}
variable {fuel : Nat} {node : ν} {step : PathStep} {rest steps : List PathStep} {above : List ν}

/-- The nodes that a wildcard goes on to from a node. -/
def below (search : PathSearch ν) (node : ν) (above : List ν) : List ν :=
  (search.graph.descendants node).filter fun child =>
    !(search.cycleGuard && (search.pushed node above).contains child)

theorem below_of_guard (hg : search.cycleGuard = true) :
    search.below node above = (search.graph.descendants node).filter (· ∉ node :: above) := by
  simp [below, pushed_of_guard hg, hg]

theorem below_of_no_guard (hg : search.cycleGuard = false) :
    search.below node above = search.graph.descendants node := by
  simp [below, hg]

theorem resolveSteps_zero : search.resolveSteps 0 node steps above = endless :=
  rfl

theorem resolveSteps_lone_wildcard :
    search.resolveSteps (fuel + 1) node [.wildcard] above = .ok (some node) :=
  rfl

theorem resolveSteps_wildcard_of_not_isMiss (hne : rest ≠ [])
    (h : ¬IsMiss (search.resolveSteps fuel node rest [])) :
    search.resolveSteps (fuel + 1) node (.wildcard :: rest) above =
      search.resolveSteps fuel node rest [] := by
  rcases found_or_fatal_of_not_isMiss h with ⟨found, h⟩ | ⟨e, h⟩ <;> simp [resolveSteps, hne, h]

theorem resolveSteps_wildcard_of_isMiss (hne : rest ≠ [])
    (h : IsMiss (search.resolveSteps fuel node rest [])) :
    search.resolveSteps (fuel + 1) node (.wildcard :: rest) above =
      wildcardOutcome (firstFound
        (fun child => search.resolveSteps fuel child (.wildcard :: rest)
          (search.pushed node above)) (search.below node above)) := by
  rcases h with h | ⟨steps, h⟩
  · simp only [resolveSteps, List.isEmpty_iff, hne, if_false, h]
    rfl
  · simp only [resolveSteps, List.isEmpty_iff, hne, if_false, h]
    rfl

theorem resolveSteps_of_error (hs : step ≠ .wildcard) {e : Error}
    (h : search.graph.takeStep search.registry node step = .error e) :
    search.resolveSteps (fuel + 1) node (step :: rest) above = .error (.fatal e) := by
  cases step <;> simp_all [resolveSteps]

theorem resolveSteps_of_nothing (hs : step ≠ .wildcard)
    (h : search.graph.takeStep search.registry node step = .ok none) :
    search.resolveSteps (fuel + 1) node (step :: rest) above = .error (.unresolved [step]) := by
  cases step <;> simp_all [resolveSteps]

theorem resolveSteps_of_scalar (hs : step ≠ .wildcard) {value : Value ν}
    (h : search.graph.takeStep search.registry node step = .ok (some value))
    (scalar : value.object? = none) :
    search.resolveSteps (fuel + 1) node (step :: rest) above = .ok none := by
  cases value with
  | object next => simp [Value.object?] at scalar
  | _ => cases step <;> simp_all [resolveSteps]

theorem resolveSteps_of_last (hs : step ≠ .wildcard) {next : ν}
    (h : search.graph.takeStep search.registry node step = .ok (some (.object next))) :
    search.resolveSteps (fuel + 1) node [step] above = .ok (some next) := by
  cases step <;> simp_all [resolveSteps]

theorem resolveSteps_of_object (hs : step ≠ .wildcard) (hne : rest ≠ []) {next : ν}
    (h : search.graph.takeStep search.registry node step = .ok (some (.object next))) :
    search.resolveSteps (fuel + 1) node (step :: rest) above =
      afterStep step (search.resolveSteps fuel next rest []) := by
  cases step with
  | wildcard => exact absurd rfl hs
  | name | index | attr =>
    simp only [resolveSteps, h, List.isEmpty_iff, hne, if_false]
    rfl

/-- The turns that a call can take at a node, by its steps. -/
inductive Turn (search : PathSearch ν) (node : ν) : List PathStep → Prop
  | done : Turn search node []
  | loneWildcard : Turn search node [.wildcard]
  | wildcard {rest : List PathStep} : rest ≠ [] → Turn search node (.wildcard :: rest)
  | failure {step : PathStep} {rest : List PathStep} {e : Error} : step ≠ .wildcard →
      search.graph.takeStep search.registry node step = .error e → Turn search node (step :: rest)
  | nothing {step : PathStep} {rest : List PathStep} : step ≠ .wildcard →
      search.graph.takeStep search.registry node step = .ok none → Turn search node (step :: rest)
  | scalar {step : PathStep} {rest : List PathStep} {value : Value ν} : step ≠ .wildcard →
      search.graph.takeStep search.registry node step = .ok (some value) →
      value.object? = none → Turn search node (step :: rest)
  | last {step : PathStep} {next : ν} : step ≠ .wildcard →
      search.graph.takeStep search.registry node step = .ok (some (.object next)) →
      Turn search node [step]
  | object {step : PathStep} {rest : List PathStep} {next : ν} : step ≠ .wildcard → rest ≠ [] →
      search.graph.takeStep search.registry node step = .ok (some (.object next)) →
      Turn search node (step :: rest)

theorem turn (search : PathSearch ν) (node : ν) (steps : List PathStep) :
    search.Turn node steps := by
  rcases steps with _ | ⟨step, rest⟩
  · exact .done
  by_cases hs : step = .wildcard
  · subst hs
    by_cases hne : rest = []
    · exact hne ▸ .loneWildcard
    · exact .wildcard hne
  cases ht : search.graph.takeStep search.registry node step with
  | error e => exact .failure hs ht
  | ok found =>
    cases found with
    | none => exact .nothing hs ht
    | some value =>
      cases hv : value.object? with
      | none => exact .scalar hs ht hv
      | some next =>
        rw [Value.eq_object_of_object? hv] at ht
        by_cases hne : rest = []
        · exact hne ▸ .last hs ht
        · exact .object hs hne ht

theorem resolveSteps_succ (h : search.resolveSteps fuel node steps above ≠ endless) :
    search.resolveSteps (fuel + 1) node steps above = search.resolveSteps fuel node steps above := by
  induction fuel generalizing node steps above with
  | zero => exact absurd resolveSteps_zero h
  | succ fuel ih =>
    cases search.turn node steps with
    | done | loneWildcard => rfl
    | failure hs ht => rw [resolveSteps_of_error hs ht, resolveSteps_of_error hs ht]
    | nothing hs ht => rw [resolveSteps_of_nothing hs ht, resolveSteps_of_nothing hs ht]
    | scalar hs ht hv => rw [resolveSteps_of_scalar hs ht hv, resolveSteps_of_scalar hs ht hv]
    | last hs ht => rw [resolveSteps_of_last hs ht, resolveSteps_of_last hs ht]
    | object hs hne ht =>
      rw [resolveSteps_of_object hs hne ht] at h ⊢
      rw [resolveSteps_of_object hs hne ht, ih (fun he => h (afterStep_eq_fatal.mpr he))]
    | @wildcard rest hne =>
      by_cases hm : IsMiss (search.resolveSteps fuel node rest [])
      · have hr := ih hm.ne_endless
        rw [resolveSteps_wildcard_of_isMiss hne hm] at h ⊢
        rw [resolveSteps_wildcard_of_isMiss hne (hr ▸ hm)]
        congr 1
        exact firstFound_congr (fun child _ => ih) (fun he => h (wildcardOutcome_eq_fatal.mpr he))
      · rw [resolveSteps_wildcard_of_not_isMiss hne hm] at h ⊢
        have hr := ih h
        rw [resolveSteps_wildcard_of_not_isMiss hne (hr ▸ hm), hr]

theorem endless_of_succ (h : search.resolveSteps (fuel + 1) node steps above = endless) :
    search.resolveSteps fuel node steps above = endless :=
  Classical.byContradiction fun hend => hend (resolveSteps_succ hend ▸ h)

/-- An outcome within some depth of calls is the outcome within any larger one. -/
theorem resolveSteps_mono {fuel' : Nat} (hle : fuel ≤ fuel')
    (h : search.resolveSteps fuel node steps above ≠ endless) :
    search.resolveSteps fuel' node steps above = search.resolveSteps fuel node steps above := by
  induction hle with
  | refl => rfl
  | step _ ih => rw [resolveSteps_succ (ih ▸ h), ih]

theorem resolveSteps_eq_of_ends {fuel' : Nat}
    (h : search.resolveSteps fuel node steps above ≠ endless)
    (h' : search.resolveSteps fuel' node steps above ≠ endless) :
    search.resolveSteps fuel node steps above = search.resolveSteps fuel' node steps above := by
  rcases Nat.le_total fuel fuel' with hle | hle
  · exact (resolveSteps_mono hle h).symm
  · exact resolveSteps_mono hle h'

/-- Only class steps without a registry put a fatal end to a search. -/
theorem cause_of_fatal {e : Error} (hne : steps ≠ []) (he : e ≠ .endless)
    (h : search.resolveSteps fuel node steps above = .error (.fatal e)) :
    search.registry = none ∧
      ∃ name, .name name ∈ steps ∧ isClassName name = true ∧ e = .registryUnavailable name := by
  induction fuel generalizing node steps above with
  | zero =>
    rw [resolveSteps_zero] at h
    simp only [Except.error.injEq, Dead.fatal.injEq] at h
    exact absurd h.symm he
  | succ fuel ih =>
    cases search.turn node steps with
    | done => exact absurd rfl hne
    | loneWildcard => simp [resolveSteps_lone_wildcard] at h
    | nothing hs ht => simp [resolveSteps_of_nothing hs ht] at h
    | scalar hs ht hv => simp [resolveSteps_of_scalar hs ht hv] at h
    | last hs ht => simp [resolveSteps_of_last hs ht] at h
    | failure hs ht =>
      rw [resolveSteps_of_error hs ht] at h
      simp only [Except.error.injEq, Dead.fatal.injEq] at h
      obtain ⟨hr, name, rfl, hc, rfl⟩ := WidgetGraph.takeStep_eq_error_iff.mp ht
      exact ⟨hr, name, by simp, hc, h.symm⟩
    | object hs hne' ht =>
      rw [resolveSteps_of_object hs hne' ht] at h
      obtain ⟨hr, name, hm, hc⟩ := ih hne' (afterStep_eq_fatal.mp h)
      exact ⟨hr, name, List.mem_cons_of_mem _ hm, hc⟩
    | @wildcard rest hne' =>
      by_cases hm : IsMiss (search.resolveSteps fuel node rest [])
      · rw [resolveSteps_wildcard_of_isMiss hne' hm] at h
        have hf := wildcardOutcome_eq_fatal.mp h
        rcases firstFound_none_or_branch (fun child => search.resolveSteps fuel child
          (.wildcard :: rest) (search.pushed node above)) (search.below node above) with
          hn | ⟨child, _, hb, _⟩
        · simp [hn] at hf
        · exact ih (by simp) (hb ▸ hf)
      · rw [resolveSteps_wildcard_of_not_isMiss hne' hm] at h
        obtain ⟨hr, name, hm, hc⟩ := ih hne' h
        exact ⟨hr, name, List.mem_cons_of_mem _ hm, hc⟩

/-- A search below a node comes to an end, with an outcome: it has it within some depth of calls. -/
def Returns (search : PathSearch ν) (root : ν) (path : Path) (outcome : Resolution ν) : Prop :=
  outcome ≠ endless ∧ ∃ fuel, search.resolveSteps fuel root path.steps [] = outcome

theorem Returns.unique {root : ν} {path : Path} {first second : Resolution ν}
    (h₁ : search.Returns root path first) (h₂ : search.Returns root path second) :
    first = second := by
  obtain ⟨hne₁, fuel₁, rfl⟩ := h₁
  obtain ⟨hne₂, fuel₂, rfl⟩ := h₂
  exact resolveSteps_eq_of_ends hne₁ hne₂

/-- Nodes that are below each other, and a last one that is below one of them. -/
def entangled (guard : Bool) : PathSearch (Fin 4) :=
  ⟨.ofChildren fun node => [[1, 2], [2, 0], [0, 1, 3], []].getD node [], none, guard⟩

end PathSearch

end WidgetLocator
