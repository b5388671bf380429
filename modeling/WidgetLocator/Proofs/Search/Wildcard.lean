import WidgetLocator.Proofs.Search.Preorder

namespace WidgetLocator
namespace PathSearch

variable {ν : Type} [DecidableEq ν] {search : PathSearch ν}

/-- What the rest of a path comes to at each node, if it comes to an end there. -/
def OutcomesOf (search : PathSearch ν) (rest : List PathStep) (outcome : ν → Resolution ν) : Prop :=
  ∀ fuel node, search.resolveSteps fuel node rest [] ≠ endless →
    search.resolveSteps fuel node rest [] = outcome node

variable {rest : List PathStep} {outcome : ν → Resolution ν} {nodes : Finset ν} {room : Nat}
variable {above seen : List ν} {node : ν}

/-- Below a node that was seen without a match nothing is found, however it is come to again: its
descendants were seen, but for those that the search is still below, and these are not entered. -/
theorem isMiss_of_seen (hg : search.cycleGuard = true) (hne : rest ≠ [])
    (ho : search.OutcomesOf rest outcome) (missed : firstFound outcome seen = .ok none) {fuel : Nat}
    (explored : search.graph.Explored nodes room above seen) (hs : node ∈ seen) (ha : node ∉ above)
    (ends : search.resolveSteps fuel node (.wildcard :: rest) above ≠ endless) :
    IsMiss (search.resolveSteps fuel node (.wildcard :: rest) above) := by
  induction fuel generalizing node above with
  | zero => exact absurd resolveSteps_zero ends
  | succ fuel ih =>
    by_cases hm : IsMiss (search.resolveSteps fuel node rest [])
    · rw [resolveSteps_wildcard_of_isMiss hne hm] at ends ⊢
      rw [firstFound_eq_none_of_ends (fun child hc hend => ?_)
        (fun he => ends (wildcardOutcome_eq_fatal.mpr he))]
      · exact isMiss_unresolved _
      · -- the node counts as above now, so that below a child only seen nodes are entered
        obtain ⟨hd, hn⟩ := (mem_below hg).mp hc
        rw [pushed_of_guard hg] at hend ⊢
        exact ih (explored.again hs) (explored.closed node hs ha child hd) hn hend
    · rw [resolveSteps_wildcard_of_not_isMiss hne hm] at ends
      exact absurd (ho fuel node ends ▸ firstFound_eq_none_iff.mp missed node hs) hm

/-- A search through siblings finds what visits of them find, if that holds of each one that was not
seen before. -/
theorem firstFound_eq_visits {below : ν → Resolution ν} {children : List ν}
    (finite : search.graph.DescendantsIn nodes) (inside : ∀ child ∈ children, child ∈ nodes)
    (explored : search.graph.Explored nodes room above seen)
    (missed : firstFound outcome seen = .ok none)
    (again : ∀ seen child, search.graph.Explored nodes room above seen →
      firstFound outcome seen = .ok none → child ∈ seen → child ∉ above → below child ≠ endless →
      IsMiss (below child))
    (first : ∀ seen child, search.graph.Explored nodes room above seen →
      firstFound outcome seen = .ok none → child ∈ nodes → child ∉ seen → below child ≠ endless →
      below child = wildcardOutcome (firstFound outcome (search.graph.visit room seen child)))
    (ends : firstFound below (children.filter (· ∉ above)) ≠ endless) :
    firstFound below (children.filter (· ∉ above)) =
      firstFound outcome (children.foldl (search.graph.visit room) seen) := by
  induction children generalizing seen with
  | nil => exact missed.symm
  | cons child children ih =>
    have hi := inside child (by simp)
    have inside' : ∀ c ∈ children, c ∈ nodes := fun c hc => inside c (by simp [hc])
    rw [List.foldl_cons]
    -- a child is above and skipped by both, seen and tried in vain, or fresh
    by_cases ha : child ∈ above
    · rw [List.filter_cons_of_neg (by simpa using ha)] at ends ⊢
      rw [WidgetGraph.visit_of_mem (explored.above_seen child ha)]
      exact ih inside' explored missed ends
    rw [List.filter_cons_of_pos (by simpa using ha)] at ends ⊢
    have hend := ne_endless_of_firstFound_cons ends
    by_cases hs : child ∈ seen
    · have hm := again seen child explored missed hs ha hend
      rw [firstFound_cons_of_isMiss hm] at ends ⊢
      rw [WidgetGraph.visit_of_mem hs]
      exact ih inside' explored missed ends
    have hf := first seen child explored missed hi hs hend
    rcases firstFound_none_or_branch outcome (search.graph.visit room seen child) with
      hn | ⟨found, _, hb, hn⟩
    · have hm : IsMiss (below child) := by
        rw [hf, hn]
        exact isMiss_unresolved _
      rw [firstFound_cons_of_isMiss hm] at ends ⊢
      exact ih inside' (explored.visit finite hi).1 hn ends
    · rw [← hb] at hn
      rw [wildcardOutcome_of_not_isMiss hn] at hf
      rw [firstFound_cons_of_not_isMiss (hf ▸ hn), hf]
      refine (firstFound_prefix_eq (fun he => hn (Or.inl he)) ?_).symm
      exact WidgetGraph.prefix_foldl_visit (WidgetGraph.prefix_visit room) children _

/-- A wildcard finds what a depth-first visit of its node finds. -/
theorem resolveSteps_eq_visit (hg : search.cycleGuard = true) (hne : rest ≠ [])
    (finite : search.graph.DescendantsIn nodes) (ho : search.OutcomesOf rest outcome) {fuel : Nat}
    (explored : search.graph.Explored nodes room above seen)
    (missed : firstFound outcome seen = .ok none) (hi : node ∈ nodes) (hs : node ∉ seen)
    (ends : search.resolveSteps fuel node (.wildcard :: rest) above ≠ endless) :
    search.resolveSteps fuel node (.wildcard :: rest) above =
      wildcardOutcome (firstFound outcome (search.graph.visit room seen node)) := by
  induction fuel generalizing node above seen room with
  | zero => exact absurd resolveSteps_zero ends
  | succ fuel ih =>
    have hroom := explored.room_pos hi hs
    obtain ⟨room, rfl⟩ : ∃ r, room = r + 1 := ⟨room - 1, by omega⟩
    rw [WidgetGraph.visit_of_not_mem hs]
    by_cases hm : IsMiss (search.resolveSteps fuel node rest [])
    · have hnone : firstFound outcome (seen ++ [node]) = .ok none := by
        rw [firstFound_append_of_none missed]
        rw [ho fuel node hm.ne_endless] at hm
        exact firstFound_eq_none_iff.mpr (by simpa using hm)
      rw [resolveSteps_wildcard_of_isMiss hne hm, below_of_guard hg, pushed_of_guard hg] at ends ⊢
      congr 1
      refine firstFound_eq_visits finite (finite node) (explored.enter hi hs) hnone ?_ ?_
        (fun he => ends (wildcardOutcome_eq_fatal.mpr he))
      · intro seen child he hn hc ha hend
        exact isMiss_of_seen hg hne ho hn he hc ha hend
      · intro seen child he hn hc hs hend
        exact ih he hn hc hs hend
    · rw [resolveSteps_wildcard_of_not_isMiss hne hm] at ends ⊢
      have hout := ho fuel node ends
      have hone : firstFound outcome (seen ++ [node]) = outcome node := by
        rw [firstFound_append_of_none missed]
        exact firstFound_cons_of_not_isMiss (hout ▸ hm)
      rw [hout] at hm
      have hfold : firstFound outcome
          ((search.graph.descendants node).foldl (search.graph.visit room) (seen ++ [node])) =
          outcome node := by
        rw [← hone]
        refine firstFound_prefix_eq (fun he => hm (Or.inl (hone.symm.trans he))) ?_
        exact WidgetGraph.prefix_foldl_visit (WidgetGraph.prefix_visit room) _ _
      rw [hfold, wildcardOutcome_of_not_isMiss hm, hout]

/-- A guarded wildcard comes to the first outcome of the rest of the path in depth-first order. -/
theorem resolveSteps_eq_preorder (hg : search.cycleGuard = true) (hne : rest ≠ [])
    (finite : search.graph.DescendantsIn nodes) (ho : search.OutcomesOf rest outcome) {fuel : Nat}
    (ends : search.resolveSteps fuel node (.wildcard :: rest) [] ≠ endless) :
    search.resolveSteps fuel node (.wildcard :: rest) [] =
      wildcardOutcome (firstFound outcome (search.graph.preorder nodes.card node)) :=
  resolveSteps_eq_visit hg hne (finite.insert node) ho
    (WidgetGraph.explored_nil search.graph nodes node) rfl (Finset.mem_insert_self node nodes)
    (by simp) ends

end PathSearch
end WidgetLocator
