import WidgetLocator.Proofs.Search.Evaluation

namespace WidgetLocator

/-- A call of a search: how deep it is nested, itself counted, and what it is about. -/
structure Call (ν : Type) where
  depth : Nat
  node : ν
  steps : List PathStep
  above : List ν

/-- The nodes of a descent down to that of the call. -/
def Call.stack {ν : Type} (call : Call ν) : List ν :=
  call.node :: call.above

/-- An outcome, and the calls that were made for it in their order. -/
structure Logged (ν : Type) where
  outcome : Resolution ν
  calls : List (Call ν)

namespace Logged

variable {α ν : Type}

def map (f : Resolution ν → Resolution ν) (logged : Logged ν) : Logged ν :=
  ⟨f logged.outcome, logged.calls⟩

/-- Goes on after a miss. -/
def orElse (first next : Logged ν) : Logged ν :=
  match first.outcome with
  | .ok (some _) => first
  | .error (.fatal _) => first
  | _ => ⟨next.outcome, first.calls ++ next.calls⟩

def firstOf (search : α → Logged ν) : List α → Logged ν
  | [] => ⟨.ok none, []⟩
  | branch :: branches => (search branch).orElse (firstOf search branches)

theorem orElse_of_isMiss {first next : Logged ν} (h : IsMiss first.outcome) :
    first.orElse next = ⟨next.outcome, first.calls ++ next.calls⟩ := by
  rcases h with h | ⟨steps, h⟩ <;> simp [orElse, h]

theorem orElse_of_not_isMiss {first next : Logged ν} (h : ¬IsMiss first.outcome) :
    first.orElse next = first := by
  rcases found_or_fatal_of_not_isMiss h with ⟨node, h⟩ | ⟨e, h⟩ <;> simp [orElse, h]

theorem mem_calls_orElse_iff {first next : Logged ν} {call : Call ν} :
    call ∈ (first.orElse next).calls ↔
      call ∈ first.calls ∨ IsMiss first.outcome ∧ call ∈ next.calls := by
  by_cases hm : IsMiss first.outcome
  · rw [orElse_of_isMiss hm, List.mem_append, and_iff_right hm]
  · rw [orElse_of_not_isMiss hm, or_iff_left fun h => hm h.1]

theorem endless_of_orElse {first next : Logged ν} (h : (first.orElse next).outcome = endless) :
    first.outcome = endless ∨ next.outcome = endless := by
  by_cases hm : IsMiss first.outcome
  · rw [orElse_of_isMiss hm] at h
    exact Or.inr h
  · rw [orElse_of_not_isMiss hm] at h
    exact Or.inl h

theorem orElse_outcome_of_isMiss {first next : Logged ν} (h : IsMiss first.outcome) :
    (first.orElse next).outcome = next.outcome := by
  rw [orElse_of_isMiss h]

theorem firstOf_outcome (search : α → Logged ν) (branches : List α) :
    (firstOf search branches).outcome =
      firstFound (fun branch => (search branch).outcome) branches := by
  induction branches with
  | nil => rfl
  | cons branch branches ih =>
    let outcome (branch : α) : Resolution ν := (search branch).outcome
    by_cases hm : IsMiss (outcome branch)
    · calc
        (firstOf search (branch :: branches)).outcome = (firstOf search branches).outcome :=
          orElse_outcome_of_isMiss hm
        _ = firstFound outcome branches := ih
        _ = firstFound outcome (branch :: branches) := (firstFound_cons_of_isMiss hm).symm
    · calc
        (firstOf search (branch :: branches)).outcome = outcome branch := by
          rw [firstOf, orElse_of_not_isMiss hm]
        _ = firstFound outcome (branch :: branches) := (firstFound_cons_of_not_isMiss hm).symm

/-- The calls of a branch are made after the branches before it have missed. -/
theorem mem_calls_firstOf_iff {search : α → Logged ν} {branches : List α} {call : Call ν} :
    call ∈ (firstOf search branches).calls ↔
      ∃ before branch after, branches = before ++ branch :: after ∧
        (∀ earlier ∈ before, IsMiss (search earlier).outcome) ∧ call ∈ (search branch).calls := by
  induction branches with
  | nil => simp [firstOf]
  | cons branch branches ih =>
    rw [firstOf, mem_calls_orElse_iff, ih]
    constructor
    · rintro (h | ⟨hm, before, later, after, rfl, misses, h⟩)
      · exact ⟨[], branch, branches, rfl, by simp, h⟩
      · exact ⟨branch :: before, later, after, rfl, List.forall_mem_cons.mpr ⟨hm, misses⟩, h⟩
    · rintro ⟨before, later, after, split, misses, h⟩
      cases before with
      | nil =>
        cases split
        exact Or.inl h
      | cons first before =>
        obtain ⟨rfl, rfl⟩ := List.cons.inj split
        obtain ⟨hm, misses⟩ := List.forall_mem_cons.mp misses
        exact Or.inr ⟨hm, before, later, after, rfl, misses, h⟩

theorem calls_firstOf_cons (search : α → Logged ν) (branch : α) (branches : List α) :
    (search branch).calls ⊆ (firstOf search (branch :: branches)).calls := by
  by_cases hm : IsMiss (search branch).outcome
  · rw [firstOf, orElse_of_isMiss hm]
    exact List.subset_append_left _ _
  · rw [firstOf, orElse_of_not_isMiss hm]
    exact fun _ h => h

/-- Only branches that are reached have to agree, and their calls are listed. -/
theorem firstFound_eq_firstOf {P : Call ν → Prop} {second : α → Resolution ν}
    {search : α → Logged ν} {branches : List α}
    (agree : ∀ branch ∈ branches, (∀ call ∈ (search branch).calls, P call) →
      second branch = (search branch).outcome)
    (all : ∀ call ∈ (firstOf search branches).calls, P call) :
    firstFound second branches = (firstOf search branches).outcome := by
  induction branches with
  | nil => rfl
  | cons branch branches ih =>
    have he := agree branch (by simp) fun call hc =>
      all call (calls_firstOf_cons search branch branches hc)
    by_cases hm : IsMiss (search branch).outcome
    · rw [firstOf, orElse_of_isMiss hm] at all ⊢
      rw [firstFound_cons_of_isMiss (he ▸ hm)]
      exact ih (fun b hb => agree b (by simp [hb])) fun call hc =>
        all call (List.mem_append_right _ hc)
    · rw [firstOf, orElse_of_not_isMiss hm, firstFound_cons_of_not_isMiss (he ▸ hm), he]

theorem endless_of_firstOf {search : α → Logged ν} {branches : List α}
    (h : (firstOf search branches).outcome = endless) :
    ∃ branch ∈ branches, (search branch).outcome = endless := by
  induction branches with
  | nil => simp [firstOf] at h
  | cons branch branches ih =>
    rcases endless_of_orElse h with h | h
    · exact ⟨branch, by simp, h⟩
    · obtain ⟨b, hb, he⟩ := ih h
      exact ⟨b, by simp [hb], he⟩

end Logged

namespace PathSearch

variable {ν : Type} [DecidableEq ν] {search : PathSearch ν}

/-- The call that a search below a node starts with. -/
def firstCall (root : ν) (path : Path) : Call ν :=
  ⟨1, root, path.steps, []⟩

/-- Resolves the steps of a call and lists all calls. -/
def resolveLogged (search : PathSearch ν) : Nat → Call ν → Logged ν
  | 0, call => ⟨endless, [call]⟩
  | fuel + 1, call =>
    let inner : Logged ν :=
      match call.steps with
      | [] => ⟨.error (.fatal (.illFormed .noSteps)), []⟩
      | .wildcard :: rest =>
        if rest.isEmpty then ⟨.ok (some call.node), []⟩
        else
          (search.resolveLogged fuel ⟨call.depth + 1, call.node, rest, []⟩).orElse
            ((Logged.firstOf (fun child => search.resolveLogged fuel ⟨call.depth + 1, child,
                .wildcard :: rest, search.pushed call.node call.above⟩)
              (search.below call.node call.above)).map wildcardOutcome)
      | step :: rest =>
        match search.graph.takeStep search.registry call.node step with
        | .error e => ⟨.error (.fatal e), []⟩
        | .ok none => ⟨.error (.unresolved [step]), []⟩
        | .ok (some (.object next)) =>
          if rest.isEmpty then ⟨.ok (some next), []⟩
          else (search.resolveLogged fuel ⟨call.depth + 1, next, rest, []⟩).map (afterStep step)
        | .ok (some _) => ⟨.ok none, []⟩
    ⟨inner.outcome, call :: inner.calls⟩

/-- The calls that a call may make. -/
inductive Enters (search : PathSearch ν) : Call ν → Call ν → Prop
  | rest {depth : Nat} {node : ν} {rest : List PathStep} {above : List ν} : rest ≠ [] →
      Enters search ⟨depth, node, .wildcard :: rest, above⟩ ⟨depth + 1, node, rest, []⟩
  | descendant {depth : Nat} {node child : ν} {rest : List PathStep} {above : List ν} :
      rest ≠ [] → child ∈ search.below node above →
      Enters search ⟨depth, node, .wildcard :: rest, above⟩
        ⟨depth + 1, child, .wildcard :: rest, search.pushed node above⟩
  | next {depth : Nat} {node next : ν} {step : PathStep} {rest : List PathStep} {above : List ν} :
      step ≠ .wildcard → rest ≠ [] →
      search.graph.takeStep search.registry node step = .ok (some (.object next)) →
      Enters search ⟨depth, node, step :: rest, above⟩ ⟨depth + 1, next, rest, []⟩

theorem resolveLogged_outcome (fuel : Nat) (call : Call ν) :
    (search.resolveLogged fuel call).outcome =
      search.resolveSteps fuel call.node call.steps call.above := by
  induction fuel generalizing call with
  | zero => rfl
  | succ fuel ih =>
    obtain ⟨depth, node, steps, above⟩ := call
    cases search.turn node steps with
    | done | loneWildcard => rfl
    | failure hs ht => rw [resolveSteps_of_error hs ht]; simp [resolveLogged, ht]
    | nothing hs ht => rw [resolveSteps_of_nothing hs ht]; simp [resolveLogged, ht]
    | @scalar step rest value hs ht hv =>
      rw [resolveSteps_of_scalar hs ht hv]
      cases value <;> simp_all [resolveLogged, Value.object?]
    | last hs ht => rw [resolveSteps_of_last hs ht]; simp [resolveLogged, ht]
    | object hs hne ht =>
      rw [resolveSteps_of_object hs hne ht, ← ih ⟨depth + 1, _, _, []⟩]
      simp [resolveLogged, hne, ht, Logged.map]
    | @wildcard rest hne =>
      have hr := ih ⟨depth + 1, node, rest, []⟩
      simp only [resolveLogged, List.isEmpty_iff, hne, if_false]
      by_cases hm : IsMiss (search.resolveSteps fuel node rest [])
      · rw [resolveSteps_wildcard_of_isMiss hne hm, Logged.orElse_of_isMiss (hr ▸ hm)]
        simp only [Logged.map, Logged.firstOf_outcome, ih]
      · rw [resolveSteps_wildcard_of_not_isMiss hne hm, Logged.orElse_of_not_isMiss (hr ▸ hm), hr]

/-- The calls that a call makes itself if `fuel` more may be nested in it. The rest of a path is
tried before the descendants of the node, and a descendant after those before it. -/
inductive Starts (search : PathSearch ν) (fuel : Nat) : Call ν → Call ν → Prop
  | rest {depth : Nat} {node : ν} {rest : List PathStep} {above : List ν} : rest ≠ [] →
      Starts search fuel ⟨depth, node, .wildcard :: rest, above⟩ ⟨depth + 1, node, rest, []⟩
  | descendant {depth : Nat} {node child : ν} {rest : List PathStep} {above before after : List ν} :
      rest ≠ [] → IsMiss (search.resolveSteps fuel node rest []) →
      search.below node above = before ++ child :: after →
      (∀ earlier ∈ before, IsMiss (search.resolveSteps fuel earlier (.wildcard :: rest)
        (search.pushed node above))) →
      Starts search fuel ⟨depth, node, .wildcard :: rest, above⟩
        ⟨depth + 1, child, .wildcard :: rest, search.pushed node above⟩
  | next {depth : Nat} {node next : ν} {step : PathStep} {rest : List PathStep} {above : List ν} :
      step ≠ .wildcard → rest ≠ [] →
      search.graph.takeStep search.registry node step = .ok (some (.object next)) →
      Starts search fuel ⟨depth, node, step :: rest, above⟩ ⟨depth + 1, next, rest, []⟩

/-- All calls that are made for a call, itself among them, if no more than `fuel` may be nested. -/
inductive Makes (search : PathSearch ν) : Nat → Call ν → Call ν → Prop
  | self {fuel : Nat} {call : Call ν} : Makes search fuel call call
  | inner {fuel : Nat} {call next made : Call ν} : search.Starts fuel call next →
      Makes search fuel next made → Makes search (fuel + 1) call made

theorem Starts.enters {fuel : Nat} {call next : Call ν} (h : search.Starts fuel call next) :
    search.Enters call next := by
  cases h with
  | rest hne => exact .rest hne
  | descendant hne _ split _ => exact .descendant hne (by simp [split])
  | next hs hne ht => exact .next hs hne ht

theorem started_of_mem_calls {fuel : Nat} {call made : Call ν}
    (h : made ∈ (search.resolveLogged (fuel + 1) call).calls) :
    made = call ∨ ∃ next, search.Starts fuel call next ∧
      made ∈ (search.resolveLogged fuel next).calls := by
  obtain ⟨depth, node, steps, above⟩ := call
  refine (List.mem_cons.mp h).imp_right fun h => ?_
  cases search.turn node steps with
  | done | loneWildcard => simp at h
  | failure hs ht | nothing hs ht | last hs ht => simp [ht] at h
  | @scalar step rest value hs ht hv => cases value <;> simp_all [Value.object?]
  | object hs hne ht =>
    simp only [ht, List.isEmpty_iff, hne, if_false] at h
    exact ⟨_, .next hs hne ht, h⟩
  | wildcard hne =>
    simp only [List.isEmpty_iff, hne, if_false] at h
    rcases Logged.mem_calls_orElse_iff.mp h with h | ⟨hm, h⟩
    · exact ⟨_, .rest hne, h⟩
    · obtain ⟨before, child, after, split, misses, h⟩ := Logged.mem_calls_firstOf_iff.mp h
      simp only [resolveLogged_outcome] at hm misses
      exact ⟨_, .descendant hne hm split misses, h⟩

theorem entered_of_mem_calls {fuel : Nat} {call other : Call ν}
    (h : other ∈ (search.resolveLogged (fuel + 1) call).calls) :
    other = call ∨ ∃ next, search.Enters call next ∧
      other ∈ (search.resolveLogged fuel next).calls :=
  (started_of_mem_calls h).imp_right fun ⟨next, starts, inside⟩ => ⟨next, starts.enters, inside⟩

theorem Enters.steps_ne_nil {call next : Call ν} (h : search.Enters call next) : next.steps ≠ [] := by
  cases h with
  | rest hne => exact hne
  | descendant _ _ => exact List.cons_ne_nil _ _
  | next _ hne _ => exact hne

/-- No call of a search is left without steps if the first one is not. -/
theorem steps_ne_nil_of_mem_calls {fuel : Nat} {call other : Call ν} (hne : call.steps ≠ [])
    (h : other ∈ (search.resolveLogged fuel call).calls) : other.steps ≠ [] := by
  induction fuel generalizing call with
  | zero =>
    obtain rfl := List.mem_singleton.mp h
    exact hne
  | succ fuel ih =>
    rcases entered_of_mem_calls h with rfl | ⟨next, entered, inside⟩
    · exact hne
    · exact ih entered.steps_ne_nil inside

theorem mem_calls_self (fuel : Nat) (call : Call ν) :
    call ∈ (search.resolveLogged fuel call).calls := by
  cases fuel <;> simp [resolveLogged]

theorem calls_next {fuel depth : Nat} {node next : ν} {step : PathStep} {rest : List PathStep}
    {above : List ν} (hs : step ≠ .wildcard) (hne : rest ≠ [])
    (ht : search.graph.takeStep search.registry node step = .ok (some (.object next))) :
    (search.resolveLogged fuel ⟨depth + 1, next, rest, []⟩).calls ⊆
      (search.resolveLogged (fuel + 1) ⟨depth, node, step :: rest, above⟩).calls := by
  intro call hc
  refine List.mem_cons_of_mem _ ?_
  cases step with
  | wildcard => exact absurd rfl hs
  | name | index | attr => simpa [ht, hne, Logged.map] using hc

theorem calls_rest {fuel depth : Nat} {node : ν} {rest : List PathStep} {above : List ν}
    (hne : rest ≠ []) :
    (search.resolveLogged fuel ⟨depth + 1, node, rest, []⟩).calls ⊆
      (search.resolveLogged (fuel + 1) ⟨depth, node, .wildcard :: rest, above⟩).calls := by
  intro call hc
  refine List.mem_cons_of_mem _ ?_
  simp only [List.isEmpty_iff, hne, if_false]
  by_cases hm : IsMiss (search.resolveLogged fuel ⟨depth + 1, node, rest, []⟩).outcome
  · rw [Logged.orElse_of_isMiss hm]
    exact List.mem_append_left _ hc
  · rw [Logged.orElse_of_not_isMiss hm]
    exact hc

/-- The calls for the descendants of a node, in case the rest of the path is not found at it. -/
theorem calls_descendants {fuel depth : Nat} {node : ν} {rest : List PathStep} {above : List ν}
    (hne : rest ≠ []) (hm : IsMiss (search.resolveSteps fuel node rest [])) :
    (Logged.firstOf (fun child => search.resolveLogged fuel ⟨depth + 1, child, .wildcard :: rest,
        search.pushed node above⟩) (search.below node above)).calls ⊆
      (search.resolveLogged (fuel + 1) ⟨depth, node, .wildcard :: rest, above⟩).calls := by
  intro call hc
  refine List.mem_cons_of_mem _ ?_
  simp only [List.isEmpty_iff, hne, if_false]
  rw [Logged.orElse_of_isMiss (by rwa [resolveLogged_outcome])]
  exact List.mem_append_right _ hc

theorem Starts.calls_subset {fuel : Nat} {call next : Call ν} (h : search.Starts fuel call next) :
    (search.resolveLogged fuel next).calls ⊆ (search.resolveLogged (fuel + 1) call).calls := by
  cases h with
  | rest hne => exact calls_rest hne
  | next hs hne ht => exact calls_next hs hne ht
  | descendant hne hm split misses =>
    intro made h
    refine calls_descendants hne hm (Logged.mem_calls_firstOf_iff.mpr ⟨_, _, _, split, ?_, h⟩)
    simpa only [resolveLogged_outcome] using misses

/-- The calls that are listed are those that are made. -/
theorem mem_calls_iff {fuel : Nat} {call made : Call ν} :
    made ∈ (search.resolveLogged fuel call).calls ↔ search.Makes fuel call made := by
  constructor
  · intro h
    induction fuel generalizing call with
    | zero =>
      obtain rfl := List.mem_singleton.mp h
      exact .self
    | succ fuel ih =>
      rcases started_of_mem_calls h with rfl | ⟨next, starts, inside⟩
      · exact .self
      · exact .inner starts (ih inside)
  · intro h
    induction h with
    | self => exact mem_calls_self _ _
    | inner starts _ ih => exact starts.calls_subset ih

theorem entered_of_endless {fuel : Nat} {call : Call ν}
    (h : (search.resolveLogged (fuel + 1) call).outcome = endless) :
    ∃ next, search.Enters call next ∧ (search.resolveLogged fuel next).outcome = endless := by
  obtain ⟨depth, node, steps, above⟩ := call
  cases search.turn node steps with
  | done | loneWildcard => simp [resolveLogged] at h
  | failure hs ht =>
    obtain ⟨_, name, _, _, he⟩ := WidgetGraph.takeStep_eq_error_iff.mp ht
    simp [resolveLogged, ht, he] at h
  | nothing hs ht | last hs ht => simp [resolveLogged, ht] at h
  | @scalar step rest value hs ht hv => cases value <;> simp_all [resolveLogged, Value.object?]
  | object hs hne ht =>
    simp only [resolveLogged, ht, List.isEmpty_iff, hne, if_false] at h
    exact ⟨_, .next hs hne ht, afterStep_eq_fatal.mp h⟩
  | wildcard hne =>
    simp only [resolveLogged, List.isEmpty_iff, hne, if_false] at h
    rcases Logged.endless_of_orElse h with h | h
    · exact ⟨_, .rest hne, h⟩
    · obtain ⟨child, hc, h⟩ := Logged.endless_of_firstOf (wildcardOutcome_eq_fatal.mp h)
      exact ⟨_, .descendant hne hc, h⟩

end PathSearch

end WidgetLocator
