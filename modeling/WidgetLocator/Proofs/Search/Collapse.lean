import WidgetLocator.Proofs.Search.Guard
import WidgetLocator.Proofs.Search.Wildcard

namespace WidgetLocator

theorem firstFound_eq_none_of_isMiss {α ν : Type} {outcome : α → Resolution ν}
    {branches : List α} (h : IsMiss (wildcardOutcome (firstFound outcome branches))) :
    firstFound outcome branches = .ok none := by
  rcases firstFound_none_or_branch outcome branches with none | ⟨branch, _, hb, hn⟩
  · exact none
  · rw [hb, wildcardOutcome_of_not_isMiss hn] at h
    exact absurd h hn

namespace PathSearch

variable {ν : Type} [DecidableEq ν] {search : PathSearch ν}

/-- What steps come to at a node, within the depth of calls that a guarded search needs in a graph
with some nodes. -/
def outcomeAt (search : PathSearch ν) (nodes : Finset ν) (steps : List PathStep) (node : ν) :
    Resolution ν :=
  search.resolveSteps (steps.length * (nodes.card + 1)) node steps []

variable {nodes : Finset ν} {node root : ν} {step : PathStep} {steps rest first second : List PathStep}

/-- What follows a step that leads to no object does not matter. -/
theorem resolveSteps_of_no_object (hs : step ≠ .wildcard)
    (no : ∀ next, search.graph.takeStep search.registry node step ≠ .ok (some (.object next)))
    {fuel fuel' : Nat} {above above' : List ν} :
    search.resolveSteps (fuel + 1) node (step :: first) above =
      search.resolveSteps (fuel' + 1) node (step :: second) above' := by
  cases search.turn node (step :: first) with
  | loneWildcard | wildcard => exact absurd rfl hs
  | last _ ht | object _ _ ht => exact absurd ht (no _)
  | failure _ ht => rw [resolveSteps_of_error hs ht, resolveSteps_of_error hs ht]
  | nothing _ ht => rw [resolveSteps_of_nothing hs ht, resolveSteps_of_nothing hs ht]
  | scalar _ ht hv => rw [resolveSteps_of_scalar hs ht hv, resolveSteps_of_scalar hs ht hv]

section Outcomes

variable (hg : search.cycleGuard = true) (finite : search.graph.DescendantsIn nodes)

include hg finite

theorem outcomeAt_ne_endless (hne : steps ≠ []) : search.outcomeAt nodes steps node ≠ endless :=
  resolveSteps_guarded_ne_endless hg finite hne le_rfl

theorem outcomesOf_outcomeAt (hne : steps ≠ []) :
    search.OutcomesOf steps (search.outcomeAt nodes steps) :=
  fun _ _ ends => resolveSteps_eq_of_ends ends (outcomeAt_ne_endless hg finite hne)

theorem outcomeAt_eq_of_returns {path : Path} {outcome : Resolution ν}
    (h : search.Returns root path outcome) : search.outcomeAt nodes path.steps root = outcome := by
  obtain ⟨ends, fuel, rfl⟩ := h
  exact (outcomesOf_outcomeAt hg finite path.nonempty fuel root ends).symm

theorem outcomeAt_wildcard (hne : rest ≠ []) :
    search.outcomeAt nodes (.wildcard :: rest) node =
      wildcardOutcome (firstFound (search.outcomeAt nodes rest)
        (search.graph.preorder nodes.card node)) :=
  resolveSteps_eq_preorder hg hne finite (outcomesOf_outcomeAt hg finite hne)
    (outcomeAt_ne_endless hg finite (by simp))

theorem outcomeAt_of_object (hs : step ≠ .wildcard) (hne : rest ≠ []) {next : ν}
    (ht : search.graph.takeStep search.registry node step = .ok (some (.object next))) :
    search.outcomeAt nodes (step :: rest) node = afterStep step (search.outcomeAt nodes rest next) := by
  have deeper : search.resolveSteps (rest.length * (nodes.card + 1) + 1) node (step :: rest) [] =
      afterStep step (search.outcomeAt nodes rest next) := resolveSteps_of_object hs hne ht
  rw [← deeper]
  refine (outcomesOf_outcomeAt hg finite (by simp) _ node ?_).symm
  rw [deeper]
  exact fun he => outcomeAt_ne_endless hg finite hne (afterStep_eq_fatal.mp he)

/-- A step makes the same of two rests of a path that come to the same at every node. -/
theorem outcomeAt_cons_congr (hne : first ≠ []) (hne' : second ≠ [])
    (same : ∀ v, search.outcomeAt nodes first v = search.outcomeAt nodes second v) :
    search.outcomeAt nodes (step :: first) node = search.outcomeAt nodes (step :: second) node := by
  by_cases hs : step = .wildcard
  · subst hs
    rw [outcomeAt_wildcard hg finite hne, outcomeAt_wildcard hg finite hne', funext same]
  by_cases ht : ∃ next, search.graph.takeStep search.registry node step = .ok (some (.object next))
  · obtain ⟨next, ht⟩ := ht
    rw [outcomeAt_of_object hg finite hs hne ht, outcomeAt_of_object hg finite hs hne' ht, same]
  · exact resolveSteps_of_no_object hs (not_exists.mp ht)

theorem outcomeAt_append_congr (hne : first ≠ []) (hne' : second ≠ [])
    (same : ∀ v, search.outcomeAt nodes first v = search.outcomeAt nodes second v)
    (before : List PathStep) :
    search.outcomeAt nodes (before ++ first) node = search.outcomeAt nodes (before ++ second) node := by
  induction before generalizing node with
  | nil => exact same node
  | cons step before ih =>
    exact outcomeAt_cons_congr hg finite (by simp [hne]) (by simp [hne']) fun _ => ih

/-- What is missed below a node is missed below each node that can be reached from it. -/
theorem isMiss_of_reachable (hne : rest ≠ [])
    (hm : IsMiss (search.outcomeAt nodes (.wildcard :: rest) node)) {v : ν}
    (hv : v ∈ search.graph.preorder nodes.card node) :
    IsMiss (search.outcomeAt nodes (.wildcard :: rest) v) := by
  rw [outcomeAt_wildcard hg finite hne] at hm ⊢
  have missed : ∀ u ∈ search.graph.preorder nodes.card node, IsMiss (search.outcomeAt nodes rest u) :=
    firstFound_eq_none_iff.mp (firstFound_eq_none_of_isMiss hm)
  have reached := (WidgetGraph.mem_preorder_iff finite).mp hv
  have none : firstFound (search.outcomeAt nodes rest) (search.graph.preorder nodes.card v) =
      .ok none := by
    refine firstFound_eq_none_iff.mpr fun u hu => missed u ?_
    exact (WidgetGraph.mem_preorder_iff finite).mpr
      (reached.trans ((WidgetGraph.mem_preorder_iff finite).mp hu))
  rw [none]
  exact isMiss_unresolved _

/-- Of two wildcards the second one adds nothing: what it finds is found by the first one at its own
node already, and if it finds nothing there, it finds nothing further down. -/
theorem outcomeAt_wildcard_wildcard :
    search.outcomeAt nodes (.wildcard :: .wildcard :: rest) node =
      search.outcomeAt nodes (.wildcard :: rest) node := by
  obtain ⟨later, order⟩ := search.graph.preorder_eq_cons nodes.card node
  have nonempty : PathStep.wildcard :: rest ≠ [] := List.cons_ne_nil _ _
  rw [outcomeAt_wildcard hg finite nonempty]
  by_cases hm : IsMiss (search.outcomeAt nodes (.wildcard :: rest) node)
  · by_cases hne : rest = []
    · subst hne
      exact absurd hm (not_isMiss_some node)
    have none : firstFound (search.outcomeAt nodes (.wildcard :: rest))
        (search.graph.preorder nodes.card node) = .ok none :=
      firstFound_eq_none_iff.mpr fun v hv => isMiss_of_reachable hg finite hne hm hv
    rw [none]
    rw [outcomeAt_wildcard hg finite hne] at hm ⊢
    rw [firstFound_eq_none_of_isMiss hm]
  · rw [order, firstFound_cons_of_not_isMiss hm, wildcardOutcome_of_not_isMiss hm]

end Outcomes

/-- Of two wildcards that follow one another, one can be left out: the guarded search has an end
and comes to the same without it, and so does the unguarded one if it has an end in both cases. -/
theorem wildcards_collapse (search : PathSearch ν) (nodes : Finset ν)
    (finite : search.graph.DescendantsIn nodes) (root : ν) (before after : List PathStep) :
    let twice : Path := ⟨before ++ .wildcard :: .wildcard :: after, by simp⟩
    let once : Path := ⟨before ++ .wildcard :: after, by simp⟩
    (∃ outcome, (search.withGuard true).resolve nodes.card root twice = outcome ∧
      (search.withGuard true).resolve nodes.card root once = outcome ∧
      (search.withGuard true).Returns root twice outcome ∧
      (search.withGuard true).Returns root once outcome) ∧
    ∀ first second, (search.withGuard false).Returns root twice first →
      (search.withGuard false).Returns root once second → first = second := by
  intro twice once
  have guarded : (search.withGuard true).cycleGuard = true := rfl
  have same : (search.withGuard true).outcomeAt nodes twice.steps root =
      (search.withGuard true).outcomeAt nodes once.steps root :=
    outcomeAt_append_congr guarded finite (by simp) (by simp)
      (fun _ => outcomeAt_wildcard_wildcard guarded finite) before
  have returnsTwice := returns_of_resolve (resolve_guarded_ne_endless guarded finite root twice)
  have returnsOnce := returns_of_resolve (resolve_guarded_ne_endless guarded finite root once)
  have resolved : (search.withGuard true).resolve nodes.card root twice =
      (search.withGuard true).resolve nodes.card root once := by
    rw [← outcomeAt_eq_of_returns guarded finite returnsTwice,
      ← outcomeAt_eq_of_returns guarded finite returnsOnce, same]
  refine ⟨⟨_, resolved, rfl, resolved ▸ returnsTwice, returnsOnce⟩, fun first second ht ho => ?_⟩
  rw [ht.guarded.unique returnsTwice, ho.guarded.unique returnsOnce, resolved]

theorem wildcards_collapse_entangled :
    (entangled true).Returns 0 ⟨[.index 1, .wildcard, .wildcard, .index 7], by simp⟩
        (.error (.unresolved [.index 1, .wildcard])) ∧
      ∀ outcome, (entangled false).Returns 0 ⟨[.wildcard, .wildcard, .index 1], by simp⟩ outcome →
        outcome = .ok (some 2) := by
  have finite : (entangled true).graph.DescendantsIn Finset.univ := fun _ _ _ => Finset.mem_univ _
  obtain ⟨outcome, _, resolved, returns, _⟩ :=
    (wildcards_collapse (entangled true) Finset.univ finite 0 [.index 1] [.index 7]).1
  have stops : (entangled false).Returns 0 ⟨[.wildcard, .index 1], by simp⟩ (.ok (some 2)) :=
    ⟨by simp, 4, rfl⟩
  refine ⟨?_, fun outcome h => ?_⟩
  · rw [← resolved] at returns
    exact returns
  · exact (wildcards_collapse (entangled false) Finset.univ finite 0 [] [.index 1]).2 _ _ h stops

end PathSearch
end WidgetLocator
