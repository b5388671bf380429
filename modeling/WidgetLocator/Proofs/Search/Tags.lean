import WidgetLocator.Graph.Tags
import WidgetLocator.Proofs.Search.Bound

namespace WidgetLocator
namespace WidgetGraph

variable {ν : Type}

section First

variable {first second : ν → Except Error (Option ν)} {node : ν} {nodes : List ν}

theorem firstTagged_cons_of_none (h : first node = .ok none) :
    firstTagged first (node :: nodes) = firstTagged first nodes := by
  simp [firstTagged, h]

theorem firstTagged_cons_of_ne_none (h : first node ≠ .ok none) :
    firstTagged first (node :: nodes) = first node := by
  unfold firstTagged
  split
  next hn => exact absurd hn h
  next => rfl

theorem exists_of_firstTagged {outcome : Except Error (Option ν)}
    (h : firstTagged first nodes = outcome) (found : outcome ≠ .ok none) :
    ∃ node ∈ nodes, first node = outcome := by
  induction nodes with
  | nil => exact absurd h.symm found
  | cons node nodes ih =>
    by_cases hn : first node = .ok none
    · rw [firstTagged_cons_of_none hn] at h
      obtain ⟨later, hm, hl⟩ := ih h
      exact ⟨later, List.mem_cons_of_mem _ hm, hl⟩
    · rw [firstTagged_cons_of_ne_none hn] at h
      exact ⟨node, List.mem_cons_self, h⟩

/-- Searches that agree wherever the first one has an end have the same outcome, if that has an
end. -/
theorem firstTagged_congr
    (agree : ∀ node ∈ nodes, first node ≠ .error .endless → second node = first node)
    (h : firstTagged first nodes ≠ .error .endless) :
    firstTagged second nodes = firstTagged first nodes := by
  induction nodes with
  | nil => rfl
  | cons node nodes ih =>
    by_cases hn : first node = .ok none
    · have he := agree node (by simp) (by simp [hn])
      rw [firstTagged_cons_of_none hn] at h ⊢
      rw [firstTagged_cons_of_none (he.trans hn)]
      exact ih (fun v hv => agree v (by simp [hv])) h
    · rw [firstTagged_cons_of_ne_none hn] at h ⊢
      have he := agree node (by simp) h
      rw [firstTagged_cons_of_ne_none (he ▸ hn), he]

end First

variable {graph : WidgetGraph ν} {fuel : Nat} {node : ν} {tag : String}

/-- The objects among the children of a node. -/
def childNodes (graph : WidgetGraph ν) (node : ν) : List ν :=
  ((graph.children node).getD []).filterMap Value.object?

/-- A child with the tag, or what is found below it. -/
def tagAtOrBelow (graph : WidgetGraph ν) (fuel : Nat) (tag : String) (child : ν) :
    Except Error (Option ν) :=
  if (graph.userData child tag).isTruthy then .ok (some child) else graph.searchTag fuel child tag

theorem searchTag_add_one : graph.searchTag (fuel + 1) node tag =
    firstTagged (graph.tagAtOrBelow fuel tag) (graph.childNodes node) :=
  rfl

/-- A search for a tag fails only by having no end. -/
theorem searchTag_error {e : Error} (h : graph.searchTag fuel node tag = .error e) : e = .endless := by
  induction fuel generalizing node with
  | zero => exact (Except.error.inj h).symm
  | succ fuel ih =>
    rw [searchTag_add_one] at h
    obtain ⟨child, _, hf⟩ := exists_of_firstTagged h nofun
    unfold tagAtOrBelow at hf
    split at hf
    next => cases hf
    next => exact ih hf

theorem findTags_error {nodes : Nat} {tags : List String} {e : Error}
    (h : graph.findTags nodes node tags = .error e) : e = .endless := by
  induction tags generalizing node with
  | nil => cases h
  | cons tag tags ih =>
    unfold findTags at h
    split at h
    next => exact ih h
    next => exact searchTag_error h

theorem tagAtOrBelow_congr {other : Nat} {child : ν}
    (agree : graph.searchTag fuel child tag ≠ .error .endless →
      graph.searchTag other child tag = graph.searchTag fuel child tag)
    (h : graph.tagAtOrBelow fuel tag child ≠ .error .endless) :
    graph.tagAtOrBelow other tag child = graph.tagAtOrBelow fuel tag child := by
  unfold tagAtOrBelow at h ⊢
  split
  next => rfl
  next hn =>
    rw [if_neg hn] at h
    exact agree h

theorem searchTag_succ (h : graph.searchTag fuel node tag ≠ .error .endless) :
    graph.searchTag (fuel + 1) node tag = graph.searchTag fuel node tag := by
  induction fuel generalizing node with
  | zero => exact absurd rfl h
  | succ fuel ih =>
    rw [searchTag_add_one] at h ⊢
    rw [searchTag_add_one]
    exact firstTagged_congr (fun child _ hend => tagAtOrBelow_congr ih hend) h

theorem searchTag_endless_of_succ (h : graph.searchTag (fuel + 1) node tag = .error .endless) :
    graph.searchTag fuel node tag = .error .endless := by
  by_contra hend
  exact hend (searchTag_succ hend ▸ h)

/-- The children of all nodes are among some nodes. -/
def ChildrenIn (graph : WidgetGraph ν) (nodes : Finset ν) : Prop :=
  ∀ node, ∀ child ∈ graph.childNodes node, child ∈ nodes

/-- The nodes above a call are not entered again, since the search has no end at them within the
depth in which it has one at the node of the call. -/
theorem searchTag_eq_of_room {nodes : Finset ν} (finite : graph.ChildrenIn nodes) {above : List ν}
    {enough : Nat} (h : graph.searchTag fuel node tag ≠ .error .endless)
    (loops : ∀ v ∈ above, graph.searchTag fuel v tag = .error .endless)
    (distinct : (node :: above).Nodup) (inside : ∀ v ∈ (node :: above).dropLast, v ∈ nodes)
    (room : nodes.card + 1 ≤ enough + above.length) :
    graph.searchTag enough node tag = graph.searchTag fuel node tag := by
  induction fuel generalizing enough node above with
  | zero => exact absurd rfl h
  | succ fuel ih =>
    have length := descent_length_le distinct inside
    simp only [List.length_cons] at length
    obtain ⟨enough, rfl⟩ : ∃ n, enough = n + 1 := ⟨enough - 1, by omega⟩
    have loops' : ∀ v ∈ above, graph.searchTag fuel v tag = .error .endless :=
      fun v hv => searchTag_endless_of_succ (loops v hv)
    by_cases again : graph.searchTag fuel node tag = .error .endless
    · rw [searchTag_add_one] at h ⊢
      rw [searchTag_add_one]
      refine firstTagged_congr (fun child hc hend => ?_) h
      have loops'' : ∀ v ∈ node :: above, graph.searchTag fuel v tag = .error .endless :=
        List.forall_mem_cons.mpr ⟨again, loops'⟩
      refine tagAtOrBelow_congr (fun hend => ?_) hend
      have apart : child ∉ node :: above := fun hm => hend (loops'' child hm)
      refine ih hend loops'' (List.nodup_cons.mpr ⟨apart, distinct⟩) ?_ ?_
      · intro v hv
        rw [List.dropLast_cons_cons] at hv
        rcases List.mem_cons.mp hv with rfl | hv
        · exact finite node _ hc
        · exact inside v hv
      · simp only [List.length_cons]
        omega
    · rw [ih again loops' distinct inside room, searchTag_succ again]

theorem findTag_eq_of_ends {nodes : Finset ν} (finite : graph.ChildrenIn nodes) {n m : Nat}
    (h : graph.findTag n node tag ≠ .error .endless) (size : nodes.card ≤ m) :
    graph.findTag m node tag = graph.findTag n node tag := by
  have room : nodes.card + 1 ≤ m + 1 + ([] : List ν).length := by simpa using size
  exact searchTag_eq_of_room finite h (by simp) (by simp) (by simp) room

theorem findTags_eq_of_ends {nodes : Finset ν} (finite : graph.ChildrenIn nodes) {n m : Nat}
    {tags : List String} (h : graph.findTags n node tags ≠ .error .endless) (size : nodes.card ≤ m) :
    graph.findTags m node tags = graph.findTags n node tags := by
  induction tags generalizing node with
  | nil => rfl
  | cons tag tags ih =>
    have first : graph.findTag n node tag ≠ .error .endless := by
      intro he
      simp [findTags, he] at h
    simp only [findTags] at h ⊢
    rw [findTag_eq_of_ends finite first size]
    split
    next found hf =>
      simp only [hf] at h
      exact ih h
    next => rfl

end WidgetGraph
end WidgetLocator
