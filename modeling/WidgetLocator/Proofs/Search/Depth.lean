import WidgetLocator.Proofs.Search.Bound
import WidgetLocator.Proofs.Search.Guard

namespace WidgetLocator
namespace PathSearch

variable {ν : Type} [DecidableEq ν] {search : PathSearch ν} {nodes : Finset ν}
variable {fuel : Nat} {node : ν} {steps : List PathStep} {above : List ν}

/-- A wildcard comes to the same within two depths if what it calls does. -/
theorem resolveSteps_unguarded_wildcard_congr {rest : List PathStep} {enough : Nat} (hne : rest ≠ [])
    (h : (search.withGuard false).resolveSteps (fuel + 1) node (.wildcard :: rest) [] ≠ endless)
    (hrest : (search.withGuard false).resolveSteps fuel node rest [] ≠ endless →
      (search.withGuard false).resolveSteps enough node rest [] =
        (search.withGuard false).resolveSteps fuel node rest [])
    (hbelow : ∀ child ∈ search.graph.descendants node,
      (search.withGuard false).resolveSteps fuel child (.wildcard :: rest) [] ≠ endless →
        (search.withGuard false).resolveSteps enough child (.wildcard :: rest) [] =
          (search.withGuard false).resolveSteps fuel child (.wildcard :: rest) []) :
    (search.withGuard false).resolveSteps (enough + 1) node (.wildcard :: rest) [] =
      (search.withGuard false).resolveSteps (fuel + 1) node (.wildcard :: rest) [] := by
  by_cases hm : IsMiss ((search.withGuard false).resolveSteps fuel node rest [])
  · have hr := hrest hm.ne_endless
    rw [resolveSteps_unguarded_wildcard hne hm] at h ⊢
    rw [resolveSteps_unguarded_wildcard hne (hr ▸ hm)]
    congr 1
    exact firstFound_congr hbelow fun he => h (wildcardOutcome_eq_fatal.mpr he)
  · rw [resolveSteps_wildcard_of_not_isMiss hne hm] at h ⊢
    rw [resolveSteps_wildcard_of_not_isMiss hne (hrest h ▸ hm), hrest h]

/-- The nodes above a call are not entered again, since the search has no end at them within the
depth in which it has one at the node of the call. -/
theorem resolveSteps_eq_of_room (finite : search.graph.DescendantsIn nodes) {enough depth : Nat}
    (h : (search.withGuard false).resolveSteps fuel node steps [] ≠ endless)
    (loops : ∀ v ∈ above, (search.withGuard false).resolveSteps fuel v steps [] = endless)
    (bounds : (⟨depth, node, steps, above⟩ : Call ν).InBounds nodes)
    (room : (⟨depth, node, steps, above⟩ : Call ν).room nodes ≤ enough) :
    (search.withGuard false).resolveSteps enough node steps [] =
      (search.withGuard false).resolveSteps fuel node steps [] := by
  induction fuel generalizing enough depth node steps above with
  | zero => exact absurd resolveSteps_zero h
  | succ fuel ih =>
    have positive := bounds.room_pos
    obtain ⟨enough, rfl⟩ : ∃ n, enough = n + 1 := ⟨enough - 1, by omega⟩
    cases (search.withGuard false).turn node steps with
    | done => exact absurd rfl bounds.steps_ne
    | loneWildcard => rfl
    | failure hs ht => rw [resolveSteps_of_error hs ht, resolveSteps_of_error hs ht]
    | nothing hs ht => rw [resolveSteps_of_nothing hs ht, resolveSteps_of_nothing hs ht]
    | scalar hs ht hv => rw [resolveSteps_of_scalar hs ht hv, resolveSteps_of_scalar hs ht hv]
    | last hs ht => rw [resolveSteps_of_last hs ht, resolveSteps_of_last hs ht]
    | @object step rest next hs hne ht =>
      have shorter : (⟨depth + 1, next, rest, []⟩ : Call ν).room nodes + 1 ≤ _ :=
        bounds.room_shorter rfl hne
      have start : (⟨depth + 1, next, rest, []⟩ : Call ν).InBounds nodes := inBounds_of_no_above hne
      rw [resolveSteps_of_object hs hne ht] at h ⊢
      have ends : (search.withGuard false).resolveSteps fuel next rest [] ≠ endless :=
        fun he => h (afterStep_eq_fatal.mpr he)
      rw [resolveSteps_of_object hs hne ht, ih ends (by simp) start (by omega)]
    | @wildcard rest hne =>
      have loops' : ∀ v ∈ above,
          (search.withGuard false).resolveSteps fuel v (.wildcard :: rest) [] = endless :=
        fun v hv => endless_of_succ (loops v hv)
      by_cases again :
          (search.withGuard false).resolveSteps fuel node (.wildcard :: rest) [] = endless
      · have shorter : (⟨depth + 1, node, rest, []⟩ : Call ν).room nodes + 1 ≤ _ :=
          bounds.room_shorter rfl hne
        have start : (⟨depth + 1, node, rest, []⟩ : Call ν).InBounds nodes :=
          inBounds_of_no_above hne
        refine resolveSteps_unguarded_wildcard_congr hne h
          (fun hend => ih hend (by simp) start (by omega)) fun child hc hend => ?_
        have loops'' : ∀ v ∈ node :: above,
            (search.withGuard false).resolveSteps fuel v (.wildcard :: rest) [] = endless :=
          List.forall_mem_cons.mpr ⟨again, loops'⟩
        -- a child with an end is none of the nodes above, so the guarded search would enter it
        have apart : child ∉ node :: above := fun hm => hend (loops'' child hm)
        have entered : (search.withGuard true).Enters ⟨depth, node, .wildcard :: rest, above⟩
            ⟨depth + 1, child, .wildcard :: rest, node :: above⟩ :=
          .descendant hne ((mem_below rfl).mpr ⟨hc, apart⟩)
        have guarded : (search.withGuard true).cycleGuard = true := rfl
        obtain ⟨inside, _, less⟩ := entered.inBounds guarded finite bounds
        exact ih hend loops'' inside (by omega)
      · rw [ih again loops' bounds room, resolveSteps_succ again]

/-- A search in a finite graph that has an end has it within the depth for the size of the graph. -/
theorem resolve_eq_of_returns (finite : search.graph.DescendantsIn nodes) {root : ν} {path : Path}
    {outcome : Resolution ν} (h : search.Returns root path outcome) {n : Nat} (size : nodes.card ≤ n) :
    search.resolve n root path = outcome := by
  have depth : path.steps.length * (nodes.card + 1) ≤ depthLimit n path.steps.length := by
    have := Nat.mul_le_mul_left path.steps.length (Nat.add_le_add_right size 1)
    unfold depthLimit
    omega
  by_cases hg : search.cycleGuard = true
  · have ends : search.resolve n root path ≠ endless :=
      resolveSteps_guarded_ne_endless hg finite path.nonempty depth
    exact (returns_of_resolve ends).unique h
  · have unguarded : search.withGuard false = search := by
      cases search
      simp_all [withGuard]
    obtain ⟨hne, fuel, rfl⟩ := h
    rw [← unguarded] at hne ⊢
    have start : (firstCall root path).InBounds nodes := inBounds_of_no_above path.nonempty
    refine resolveSteps_eq_of_room finite hne (by simp) start ?_
    rw [room_of_no_above path.nonempty]
    exact depth

end PathSearch
end WidgetLocator
