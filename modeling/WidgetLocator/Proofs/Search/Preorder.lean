import WidgetLocator.Proofs.Search.Bound
import Mathlib.Logic.Relation

namespace WidgetLocator
namespace WidgetGraph

variable {ν : Type} [DecidableEq ν] (graph : WidgetGraph ν)

/-- Adds a node to those seen so far, and then what is below it, unless it was seen before. No more
than `room` nodes are entered within one another. -/
def visit : Nat → List ν → ν → List ν
  | 0, seen, _ => seen
  | room + 1, seen, node =>
    if node ∈ seen then seen
    else (graph.descendants node).foldl (visit room) (seen ++ [node])

/-- The nodes at and below a node in depth-first order, in a graph with a number of nodes. -/
def preorder (nodes : Nat) (node : ν) : List ν :=
  graph.visit (nodes + 1) [] node

/-- A node has another one as an immediate descendant. -/
def Descends (node child : ν) : Prop :=
  child ∈ graph.descendants node

/-- No node at or below a node is below itself. -/
def AcyclicFrom (node : ν) : Prop :=
  ∀ v, Relation.ReflTransGen graph.Descends node v → ¬Relation.TransGen graph.Descends v v

variable {graph} {room : Nat} {seen : List ν} {node : ν}

theorem visit_of_mem (h : node ∈ seen) : graph.visit room seen node = seen := by
  cases room with
  | zero => rfl
  | succ room => simp [visit, h]

theorem visit_of_not_mem (h : node ∉ seen) :
    graph.visit (room + 1) seen node =
      (graph.descendants node).foldl (graph.visit room) (seen ++ [node]) := by
  simp [visit, h]

theorem prefix_foldl_visit (grows : ∀ seen node, seen <+: graph.visit room seen node)
    (nodes : List ν) (seen : List ν) : seen <+: nodes.foldl (graph.visit room) seen := by
  induction nodes generalizing seen with
  | nil => exact List.prefix_rfl
  | cons node nodes ih => exact (grows seen node).trans (ih _)

theorem prefix_visit (room : Nat) (seen : List ν) (node : ν) :
    seen <+: graph.visit room seen node := by
  induction room generalizing seen node with
  | zero => exact List.prefix_rfl
  | succ room ih =>
    by_cases h : node ∈ seen
    · rw [visit_of_mem h]
    · rw [visit_of_not_mem h]
      exact (List.prefix_append seen [node]).trans (prefix_foldl_visit ih _ _)

/-- Depth-first order starts with the first node. -/
theorem preorder_eq_cons (graph : WidgetGraph ν) (nodes : Nat) (node : ν) :
    ∃ later, graph.preorder nodes node = node :: later := by
  have start : [node] <+: graph.preorder nodes node := by
    rw [preorder, visit_of_not_mem (by simp)]
    exact prefix_foldl_visit (prefix_visit nodes) _ _
  obtain ⟨later, he⟩ := start
  exact ⟨later, he.symm⟩

theorem reachable_of_mem_visit {v : ν} (h : v ∈ graph.visit room seen node) :
    v ∈ seen ∨ Relation.ReflTransGen graph.Descends node v := by
  induction room generalizing seen node with
  | zero => exact Or.inl h
  | succ room ih =>
    by_cases hn : node ∈ seen
    · exact Or.inl (visit_of_mem hn ▸ h)
    rw [visit_of_not_mem hn] at h
    have below : ∀ (children : List ν) (before : List ν),
        (∀ child ∈ children, graph.Descends node child) →
        v ∈ children.foldl (graph.visit room) before →
        v ∈ before ∨ Relation.ReflTransGen graph.Descends node v := by
      intro children
      induction children with
      | nil => exact fun before _ h => Or.inl h
      | cons child children ihc =>
        intro before hd hv
        rcases ihc _ (fun c hc => hd c (by simp [hc])) hv with hv | hv
        · exact (ih hv).imp_right (.head (hd child (by simp)))
        · exact Or.inr hv
    rcases below _ _ (fun child hc => hc) h with h | h
    · rcases List.mem_append.mp h with h | h
      · exact Or.inl h
      · exact Or.inr (List.mem_singleton.mp h ▸ .refl)
    · exact Or.inr h

/-- What holds during a depth-first search through some nodes: below a node that was seen all is
seen, unless the search is still below the node, and what was not seen yet fits in the room. -/
structure Explored (graph : WidgetGraph ν) (nodes : Finset ν) (room : Nat) (above seen : List ν) :
    Prop where
  above_seen : ∀ v ∈ above, v ∈ seen
  closed : ∀ v ∈ seen, v ∉ above → ∀ child ∈ graph.descendants v, child ∈ seen
  nodup : seen.Nodup
  inside : ∀ v ∈ seen, v ∈ nodes
  enough : nodes.card ≤ seen.length + room

variable {nodes : Finset ν} {above : List ν}

theorem Explored.room_pos (h : graph.Explored nodes room above seen) (hi : node ∈ nodes)
    (hn : node ∉ seen) : 0 < room := by
  have distinct : (node :: seen).Nodup := List.nodup_cons.mpr ⟨hn, h.nodup⟩
  have sub : (node :: seen).toFinset ⊆ nodes := fun v hv => by
    rcases List.mem_cons.mp (List.mem_toFinset.mp hv) with rfl | hv
    · exact hi
    · exact h.inside v hv
  have card := Finset.card_le_card sub
  rw [List.toFinset_card_of_nodup distinct, List.length_cons] at card
  have := h.enough
  omega

theorem Explored.enter (h : graph.Explored nodes (room + 1) above seen) (hi : node ∈ nodes)
    (hn : node ∉ seen) : graph.Explored nodes room (node :: above) (seen ++ [node]) where
  above_seen v hv := by
    rcases List.mem_cons.mp hv with rfl | hv
    · simp
    · simp [h.above_seen v hv]
  closed v hv ha child hc := by
    obtain ⟨hne, ha⟩ := not_or.mp (mt List.mem_cons.mpr ha)
    have hs : v ∈ seen := (List.mem_append.mp hv).resolve_right (mt List.mem_singleton.mp hne)
    exact List.mem_append_left _ (h.closed v hs ha child hc)
  nodup := List.nodup_append.mpr ⟨h.nodup, by simp, by
    rintro a ha b hb rfl
    exact hn (List.mem_singleton.mp hb ▸ ha)⟩
  inside v hv := by
    rcases List.mem_append.mp hv with hv | hv
    · exact h.inside v hv
    · exact List.mem_singleton.mp hv ▸ hi
  enough := by
    have := h.enough
    simp only [List.length_append, List.length_singleton]
    omega

theorem Explored.leave {after : List ν} (h : graph.Explored nodes room (node :: above) after)
    (done : ∀ child ∈ graph.descendants node, child ∈ after) :
    graph.Explored nodes (room + 1) above after where
  above_seen v hv := h.above_seen v (List.mem_cons_of_mem _ hv)
  closed v hv ha child hc := by
    by_cases he : v = node
    · exact done child (he ▸ hc)
    · exact h.closed v hv (by simp [he, ha]) child hc
  nodup := h.nodup
  inside := h.inside
  enough := by have := h.enough; omega

/-- A node that was seen can be entered again. -/
theorem Explored.again (h : graph.Explored nodes room above seen) (hs : node ∈ seen) :
    graph.Explored nodes room (node :: above) seen where
  above_seen v hv := by
    rcases List.mem_cons.mp hv with rfl | hv
    · exact hs
    · exact h.above_seen v hv
  closed v hv ha := h.closed v hv (fun hm => ha (List.mem_cons_of_mem _ hm))
  nodup := h.nodup
  inside := h.inside
  enough := h.enough

/-- Descendants that are visited one after another have all been seen then. -/
theorem Explored.foldl {children : List ν} (h : graph.Explored nodes room above seen)
    (visit : ∀ seen child, child ∈ children → graph.Explored nodes room above seen →
      graph.Explored nodes room above (graph.visit room seen child) ∧
        child ∈ graph.visit room seen child) :
    graph.Explored nodes room above (children.foldl (graph.visit room) seen) ∧
      ∀ child ∈ children, child ∈ children.foldl (graph.visit room) seen := by
  induction children generalizing seen with
  | nil => exact ⟨h, by simp⟩
  | cons child children ih =>
    obtain ⟨hv, hm⟩ := visit seen child (by simp) h
    obtain ⟨hf, hc⟩ := ih hv (fun seen c hc => visit seen c (by simp [hc]))
    refine ⟨hf, fun c hmem => ?_⟩
    rcases List.mem_cons.mp hmem with rfl | hmem
    · exact (prefix_foldl_visit (prefix_visit room) children _).subset hm
    · exact hc c hmem

theorem Explored.visit (finite : graph.DescendantsIn nodes)
    (h : graph.Explored nodes room above seen) (hi : node ∈ nodes) :
    graph.Explored nodes room above (graph.visit room seen node) ∧
      node ∈ graph.visit room seen node := by
  induction room generalizing seen node above with
  | zero =>
    -- without room all nodes were seen
    have hn : node ∈ seen := by
      by_contra hn
      exact absurd (h.room_pos hi hn) (by omega)
    exact ⟨visit_of_mem hn ▸ h, visit_of_mem hn ▸ hn⟩
  | succ room ih =>
    by_cases hn : node ∈ seen
    · rw [visit_of_mem hn]
      exact ⟨h, hn⟩
    · rw [visit_of_not_mem hn]
      obtain ⟨hf, hc⟩ := (h.enter hi hn).foldl
        (fun seen child hc hs => ih hs (finite node child hc))
      refine ⟨hf.leave hc, ?_⟩
      exact (prefix_foldl_visit (prefix_visit room) _ _).subset (by simp)

theorem explored_nil (graph : WidgetGraph ν) (nodes : Finset ν) (node : ν) :
    graph.Explored (insert node nodes) (nodes.card + 1) [] [] :=
  ⟨by simp, by simp, List.nodup_nil, by simp, by simpa using Finset.card_insert_le node nodes⟩

theorem DescendantsIn.insert (finite : graph.DescendantsIn nodes) (node : ν) :
    graph.DescendantsIn (insert node nodes) :=
  fun v child hc => Finset.mem_insert_of_mem (finite v child hc)

theorem explored_preorder (finite : graph.DescendantsIn nodes) (node : ν) :
    graph.Explored (insert node nodes) (nodes.card + 1) [] (graph.preorder nodes.card node) ∧
      node ∈ graph.preorder nodes.card node :=
  (explored_nil graph nodes node).visit (finite.insert node) (Finset.mem_insert_self node nodes)

theorem nodup_preorder (finite : graph.DescendantsIn nodes) (node : ν) :
    (graph.preorder nodes.card node).Nodup :=
  (explored_preorder finite node).1.nodup

/-- Depth-first order goes through the nodes that can be reached. -/
theorem mem_preorder_iff (finite : graph.DescendantsIn nodes) {v : ν} :
    v ∈ graph.preorder nodes.card node ↔ Relation.ReflTransGen graph.Descends node v := by
  constructor
  · intro h
    exact (reachable_of_mem_visit h).resolve_left (by simp)
  · intro h
    obtain ⟨explored, start⟩ := explored_preorder finite node
    induction h with
    | refl => exact start
    | tail _ hd ih => exact explored.closed _ ih (by simp) _ hd

end WidgetGraph
end WidgetLocator
