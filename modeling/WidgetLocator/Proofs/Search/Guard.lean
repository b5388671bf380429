import WidgetLocator.Proofs.Search.Preorder
import Mathlib.Data.Fintype.Basic

namespace WidgetLocator

/-- Branches without an end can be left out of a search that has one. -/
theorem firstFound_filter {ν : Type} [DecidableEq ν] {first second : ν → Resolution ν}
    {above branches : List ν} (left_out : ∀ branch ∈ above, first branch = endless)
    (agree : ∀ branch ∈ branches, branch ∉ above → first branch ≠ endless →
      second branch = first branch)
    (h : firstFound first branches ≠ endless) :
    firstFound second (branches.filter (· ∉ above)) = firstFound first branches := by
  have reached : firstFound first (branches.filter (· ∉ above)) = firstFound first branches := by
    clear agree
    induction branches with
    | nil => rfl
    | cons branch branches ih =>
      have hend := ne_endless_of_firstFound_cons h
      have ha : branch ∉ above := fun ha => hend (left_out branch ha)
      rw [List.filter_cons_of_pos (by simpa using ha)]
      by_cases hm : IsMiss (first branch)
      · rw [firstFound_cons_of_isMiss hm] at h ⊢
        rw [firstFound_cons_of_isMiss hm, ih h]
      · rw [firstFound_cons_of_not_isMiss hm, firstFound_cons_of_not_isMiss hm]
  rw [← reached] at h ⊢
  refine firstFound_congr (fun branch hb => ?_) h
  obtain ⟨hm, ha⟩ := List.mem_filter.mp hb
  exact agree branch hm (by simpa using ha)

namespace PathSearch

variable {ν : Type} [DecidableEq ν]

/-- The same search with or without the guard. -/
def withGuard (search : PathSearch ν) (guard : Bool) : PathSearch ν :=
  { search with cycleGuard := guard }

variable {search : PathSearch ν} {fuel : Nat} {node : ν} {rest steps : List PathStep} {above : List ν}

theorem resolveSteps_guarded_wildcard (hne : rest ≠ [])
    (hm : IsMiss ((search.withGuard true).resolveSteps fuel node rest [])) :
    (search.withGuard true).resolveSteps (fuel + 1) node (.wildcard :: rest) above =
      wildcardOutcome (firstFound
        (fun child => (search.withGuard true).resolveSteps fuel child (.wildcard :: rest)
          (node :: above))
        ((search.graph.descendants node).filter (· ∉ node :: above))) := by
  have guarded : (search.withGuard true).cycleGuard = true := rfl
  rw [resolveSteps_wildcard_of_isMiss hne hm, below_of_guard guarded, pushed_of_guard guarded]
  rfl

theorem resolveSteps_unguarded_wildcard (hne : rest ≠ [])
    (hm : IsMiss ((search.withGuard false).resolveSteps fuel node rest [])) :
    (search.withGuard false).resolveSteps (fuel + 1) node (.wildcard :: rest) [] =
      wildcardOutcome (firstFound
        (fun child => (search.withGuard false).resolveSteps fuel child (.wildcard :: rest) [])
        (search.graph.descendants node)) := by
  have unguarded : (search.withGuard false).cycleGuard = false := rfl
  rw [resolveSteps_wildcard_of_isMiss hne hm, below_of_no_guard unguarded]
  rfl

theorem resolveSteps_guarded_step {step : PathStep} (hs : step ≠ .wildcard)
    (hrest : ∀ next, rest ≠ [] →
      (search.withGuard false).graph.takeStep (search.withGuard false).registry node step =
        .ok (some (.object next)) →
      (search.withGuard true).resolveSteps fuel next rest [] =
        (search.withGuard false).resolveSteps fuel next rest []) :
    (search.withGuard true).resolveSteps (fuel + 1) node (step :: rest) above =
      (search.withGuard false).resolveSteps (fuel + 1) node (step :: rest) [] := by
  cases (search.withGuard false).turn node (step :: rest) with
  | loneWildcard | wildcard => exact absurd rfl hs
  | failure _ ht =>
    rw [resolveSteps_of_error hs ht]
    exact resolveSteps_of_error hs ht
  | nothing _ ht =>
    rw [resolveSteps_of_nothing hs ht]
    exact resolveSteps_of_nothing hs ht
  | scalar _ ht hv =>
    rw [resolveSteps_of_scalar hs ht hv]
    exact resolveSteps_of_scalar hs ht hv
  | last _ ht =>
    rw [resolveSteps_of_last hs ht]
    exact resolveSteps_of_last hs ht
  | object _ hne ht =>
    rw [resolveSteps_of_object hs hne ht, ← hrest _ hne ht]
    exact resolveSteps_of_object hs hne ht

/-- A search that has an end without the guard comes to the same with it, also below nodes at which
it would have no end within the same depth. -/
theorem resolveSteps_guarded_eq (h : (search.withGuard false).resolveSteps fuel node steps [] ≠ endless)
    (loops : ∀ v ∈ above, (search.withGuard false).resolveSteps fuel v steps [] = endless) :
    (search.withGuard true).resolveSteps fuel node steps above =
      (search.withGuard false).resolveSteps fuel node steps [] := by
  induction fuel generalizing node steps above with
  | zero => exact absurd resolveSteps_zero h
  | succ fuel ih =>
    rcases steps with _ | ⟨step, rest⟩
    · rfl
    by_cases hs : step ≠ .wildcard
    · refine resolveSteps_guarded_step hs fun next hne ht => ih (fun he => h ?_) (by simp)
      exact (resolveSteps_of_object hs hne ht).trans (afterStep_eq_fatal.mpr he)
    obtain rfl := not_not.mp hs
    by_cases hne : rest = []
    · subst hne
      rfl
    have loops' : ∀ v ∈ above,
        (search.withGuard false).resolveSteps fuel v (.wildcard :: rest) [] = endless :=
      fun v hv => endless_of_succ (loops v hv)
    -- the node is without an end within one depth less, and then so are all nodes above
    by_cases again : (search.withGuard false).resolveSteps fuel node (.wildcard :: rest) [] = endless
    · by_cases hm : IsMiss ((search.withGuard false).resolveSteps fuel node rest [])
      · have hr : (search.withGuard true).resolveSteps fuel node rest [] =
            (search.withGuard false).resolveSteps fuel node rest [] := ih hm.ne_endless (by simp)
        rw [resolveSteps_unguarded_wildcard hne hm] at h ⊢
        rw [resolveSteps_guarded_wildcard hne (hr ▸ hm)]
        congr 1
        have loops'' : ∀ v ∈ node :: above,
            (search.withGuard false).resolveSteps fuel v (.wildcard :: rest) [] = endless :=
          List.forall_mem_cons.mpr ⟨again, loops'⟩
        exact firstFound_filter loops'' (fun child _ _ hend => ih hend loops'')
          (fun he => h (wildcardOutcome_eq_fatal.mpr he))
      · rw [resolveSteps_wildcard_of_not_isMiss hne hm] at h ⊢
        have hr : (search.withGuard true).resolveSteps fuel node rest [] =
            (search.withGuard false).resolveSteps fuel node rest [] := ih h (by simp)
        rw [resolveSteps_wildcard_of_not_isMiss hne (hr ▸ hm), hr]
    · -- a smaller depth does already, where the same nodes have no end
      have hr := ih again loops'
      rw [resolveSteps_succ again, resolveSteps_succ (hr ▸ again), hr]

theorem Returns.guarded {root : ν} {path : Path} {outcome : Resolution ν}
    (h : (search.withGuard false).Returns root path outcome) :
    (search.withGuard true).Returns root path outcome := by
  obtain ⟨hne, fuel, rfl⟩ := h
  exact ⟨hne, fuel, resolveSteps_guarded_eq hne (by simp)⟩

/-- None of the calls of a search is for a node at or below which there is a cycle of
descendants. -/
def CycleFree (search : PathSearch ν) (root : ν) (path : Path) : Prop :=
  ∀ fuel, ∀ call ∈ (search.resolveLogged fuel (firstCall root path)).calls,
    search.graph.AcyclicFrom call.node

theorem cycleFree_of_rank (rank : ν → Nat) {root : ν} {path : Path}
    (rises : ∀ v, ∀ child ∈ search.graph.descendants v, rank v < rank child) :
    search.CycleFree root path := by
  have above : ∀ {v w : ν}, Relation.TransGen search.graph.Descends v w → rank v < rank w := by
    intro v w h
    induction h with
    | single h => exact rises _ _ h
    | tail _ h ih => exact ih.trans (rises _ _ h)
  intro fuel call _ v _ again
  exact absurd (above again) (lt_irrefl _)

/-- Where no call is for a node with a cycle, the guard skips nothing. -/
theorem resolveSteps_guarded_eq_of_acyclic {depth : Nat}
    (free : ∀ call ∈ ((search.withGuard false).resolveLogged fuel ⟨depth, node, steps, []⟩).calls,
      search.graph.AcyclicFrom call.node)
    (descent : ∀ v ∈ above, Relation.TransGen search.graph.Descends v node) :
    (search.withGuard true).resolveSteps fuel node steps above =
      (search.withGuard false).resolveSteps fuel node steps [] := by
  induction fuel generalizing node steps above depth with
  | zero => rfl
  | succ fuel ih =>
    rcases steps with _ | ⟨step, rest⟩
    · rfl
    by_cases hs : step ≠ .wildcard
    · exact resolveSteps_guarded_step hs fun next hne ht =>
        ih (fun call hc => free call (calls_next hs hne ht hc)) (by simp)
    obtain rfl := not_not.mp hs
    by_cases hne : rest = []
    · subst hne
      rfl
    have hr : (search.withGuard true).resolveSteps fuel node rest [] =
        (search.withGuard false).resolveSteps fuel node rest [] :=
      ih (fun call hc => free call (calls_rest hne hc)) (by simp)
    by_cases hm : IsMiss ((search.withGuard false).resolveSteps fuel node rest [])
    · rw [resolveSteps_unguarded_wildcard hne hm, resolveSteps_guarded_wildcard hne (hr ▸ hm)]
      -- a child that the search is below would be on a cycle through its node
      have apart : ∀ child ∈ search.graph.descendants node, child ∉ node :: above := by
        intro child hc ha
        refine free _ (mem_calls_self _ _) node .refl ?_
        rcases List.mem_cons.mp ha with rfl | ha
        · exact .single hc
        · exact .head hc (descent child ha)
      have all : (search.graph.descendants node).filter (· ∉ node :: above) =
          search.graph.descendants node :=
        List.filter_eq_self.mpr fun child hc => decide_eq_true (apart child hc)
      have free' := fun call hc => free call (calls_descendants hne hm hc)
      rw [below_of_no_guard rfl] at free'
      rw [all]
      congr 1
      refine (Logged.firstFound_eq_firstOf (fun child hc free'' => ?_) free').trans ?_
      · rw [resolveLogged_outcome]
        refine ih free'' fun v hv => ?_
        rcases List.mem_cons.mp hv with rfl | hv
        · exact .single hc
        · exact (descent v hv).tail hc
      · rw [Logged.firstOf_outcome]
        simp only [resolveLogged_outcome]
        rfl
    · rw [resolveSteps_wildcard_of_not_isMiss hne hm,
        resolveSteps_wildcard_of_not_isMiss hne (hr ▸ hm), hr]

theorem returns_unguarded_of_cycleFree {nodes : Finset ν} {root : ν} {path : Path}
    (finite : search.graph.DescendantsIn nodes) (free : (search.withGuard false).CycleFree root path) :
    ∃ outcome, (search.withGuard false).Returns root path outcome := by
  have guarded : (search.withGuard true).cycleGuard = true := rfl
  have ends := resolve_guarded_ne_endless guarded finite root path
  have same : (search.withGuard true).resolve nodes.card root path =
      (search.withGuard false).resolve nodes.card root path :=
    resolveSteps_guarded_eq_of_acyclic (free _) (by simp)
  exact ⟨_, returns_of_resolve (same ▸ ends)⟩

/-- The guard extends a search conservatively: what a search comes to without it, it comes to with
it, and in a finite graph a search has an end without it too if it can come to no cycle. -/
theorem guard_conservative (search : PathSearch ν) (root : ν) (path : Path) :
    (∀ outcome, (search.withGuard false).Returns root path outcome →
      (search.withGuard true).Returns root path outcome) ∧
    ∀ nodes : Finset ν, search.graph.DescendantsIn nodes →
      (search.withGuard false).CycleFree root path →
        ∃ outcome, (search.withGuard false).Returns root path outcome :=
  ⟨fun _ h => h.guarded, fun _ finite free => returns_unguarded_of_cycleFree finite free⟩

/-- The unguarded search stops at its match before it comes to a cycle, and the one in a graph of
tiers comes to none. -/
theorem guard_conservative_entangled :
    (entangled true).Returns 0 ⟨[.wildcard, .index 1], by simp⟩ (.ok (some 2)) ∧
      ∃ outcome, PathSearch.Returns
        ⟨.ofChildren fun node : Fin 3 => [[1, 2], [2], []].getD node [], none, false⟩ 0
        ⟨[.wildcard, .index 5], by simp⟩ outcome := by
  have stops : (entangled false).Returns 0 ⟨[.wildcard, .index 1], by simp⟩ (.ok (some 2)) :=
    ⟨by simp, 4, rfl⟩
  have tiers := guard_conservative
    ⟨.ofChildren fun node : Fin 3 => [[1, 2], [2], []].getD node [], none, false⟩ 0
    ⟨[.wildcard, .index 5], by simp⟩
  refine ⟨(guard_conservative (entangled false) 0 _).1 _ stops, ?_⟩
  refine tiers.2 Finset.univ (fun _ _ _ => Finset.mem_univ _) (cycleFree_of_rank Fin.val ?_)
  decide

end PathSearch
end WidgetLocator
