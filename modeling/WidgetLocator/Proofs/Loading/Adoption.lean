import WidgetLocator.Snapshot

namespace WidgetLocator
namespace Snapshot

variable {nodes : List SnapshotNode} {child parent i : NodeId} {node : SnapshotNode}

/-- A node has another one as an object among its children. -/
def Lists (nodes : List SnapshotNode) (parent child : NodeId) : Prop :=
  ∃ node ∈ nodes[parent]?, .object child ∈ node.children.getD []

theorem mem_listedChildren_iff : (child, parent) ∈ listedChildren nodes ↔ Lists nodes parent child := by
  unfold listedChildren
  constructor
  · intro h
    obtain ⟨⟨node, place⟩, hn, h⟩ := List.mem_flatMap.mp h
    obtain ⟨object, ho, he⟩ := List.mem_map.mp h
    obtain ⟨rfl, rfl⟩ := Prod.mk.inj he
    obtain ⟨value, hv, ho⟩ := List.mem_filterMap.mp ho
    have hv' := Value.eq_object_of_object? ho
    exact ⟨node, List.mem_zipIdx_iff_getElem?.mp hn, hv' ▸ hv⟩
  · rintro ⟨node, hn, hc⟩
    have place : (node, parent) ∈ nodes.zipIdx := List.mem_zipIdx_iff_getElem?.mpr hn
    have object : child ∈ (node.children.getD []).filterMap Value.object? :=
      List.mem_filterMap.mpr ⟨_, hc, rfl⟩
    exact List.mem_flatMap.mpr ⟨(node, parent), place, List.mem_map.mpr ⟨child, object, rfl⟩⟩

/-- The nodes that list children come in their order. -/
theorem listedChildren_ordered (nodes : List SnapshotNode) :
    (listedChildren nodes).Pairwise (·.2 ≤ ·.2) := by
  have places : nodes.zipIdx.Pairwise (·.2 < ·.2) := by
    have numbers : (nodes.zipIdx.map (·.2)).Pairwise (· < ·) := by
      rw [List.zipIdx_map_snd]
      exact List.pairwise_lt_range'
    exact List.pairwise_map.mp numbers
  refine List.pairwise_flatMap.mpr ⟨?_, ?_⟩
  · rintro ⟨node, i⟩ -
    exact List.pairwise_map.mpr (List.pairwise_of_forall fun _ _ => Nat.le_refl i)
  · refine places.imp ?_
    rintro ⟨first, i⟩ ⟨second, j⟩ lt x hx y hy
    obtain ⟨_, _, rfl⟩ := List.mem_map.mp hx
    obtain ⟨_, _, rfl⟩ := List.mem_map.mp hy
    exact Nat.le_of_lt lt

/-- The first other node in a list of children and parents that has a node as its child. -/
def firstOther (listed : List (NodeId × NodeId)) (child : NodeId) : Option NodeId :=
  (listed.find? fun entry => entry.1 == child && entry.2 != child).map (·.2)

theorem firstOther_cons (listed : List (NodeId × NodeId)) (child parent i : NodeId) :
    firstOther ((child, parent) :: listed) i =
      ((if child = i ∧ parent ≠ i then some parent else none) <|> firstOther listed i) := by
  unfold firstOther
  rw [List.find?_cons]
  by_cases gives : child = i ∧ parent ≠ i
  · have found : (child == i && parent != i) = true := by simpa using gives
    rw [if_pos gives, found]
    rfl
  · have skipped : (child == i && parent != i) = false := by simpa using gives
    rw [if_neg gives, skipped]
    rfl

theorem getElem?_adopt (nodes : List SnapshotNode) (child parent i : NodeId) :
    (adopt nodes child parent)[i]? = nodes[i]?.map fun node =>
      { node with
        parent := node.parent <|> if child = i ∧ parent ≠ i then some parent else none } := by
  rw [adopt, List.getElem?_modify]
  cases nodes[i]? with
  | none => simp
  | some node =>
    obtain ⟨_, _, _, _, _, _, _, _, written, _⟩ := node
    by_cases listed : child = i
    · subst listed
      by_cases own : parent = child
      · simp [own]
      · cases written <;> simp [own, Ne.symm own]
    · simp [listed]

/-- A node that is given parents keeps the first of them that is another node. -/
theorem getElem?_foldl_adopt (listed : List (NodeId × NodeId)) (nodes : List SnapshotNode)
    (i : NodeId) :
    (listed.foldl (fun nodes (child, parent) => adopt nodes child parent) nodes)[i]? =
      nodes[i]?.map fun node => { node with parent := node.parent <|> firstOther listed i } := by
  induction listed generalizing nodes with
  | nil => simp [firstOther]
  | cons first rest ih =>
    obtain ⟨child, parent⟩ := first
    have assoc (written : Option NodeId) :
        ((written <|> if child = i ∧ parent ≠ i then some parent else none) <|>
          firstOther rest i) = (written <|> firstOther ((child, parent) :: rest) i) := by
      rw [firstOther_cons]
      cases written <;> rfl
    rw [List.foldl_cons, ih, getElem?_adopt, Option.map_map]
    congr 1
    funext node
    simp only [Function.comp_apply, assoc]

/-- The first other node that lists a node among its children. -/
def inferredParent (nodes : List SnapshotNode) (child : NodeId) : Option NodeId :=
  firstOther (listedChildren nodes) child

theorem getElem?_inferParents (nodes : List SnapshotNode) (i : NodeId) :
    (inferParents nodes)[i]? =
      nodes[i]?.map fun node => { node with parent := node.parent <|> inferredParent nodes i } :=
  getElem?_foldl_adopt (listedChildren nodes) nodes i

theorem inferredParent_eq_none_iff :
    inferredParent nodes child = none ↔ ∀ other ≠ child, ¬Lists nodes other child := by
  unfold inferredParent firstOther
  rw [Option.map_eq_none_iff, List.find?_eq_none]
  constructor
  · intro none other apart lists
    have skipped := none (child, other) (mem_listedChildren_iff.mpr lists)
    simp [apart] at skipped
  · rintro none ⟨listed, other⟩ there found
    obtain ⟨rfl, apart⟩ : listed = child ∧ other ≠ child := by simpa using found
    exact none other apart (mem_listedChildren_iff.mp there)

theorem lists_of_inferredParent (h : inferredParent nodes child = some parent) :
    parent ≠ child ∧ Lists nodes parent child := by
  obtain ⟨⟨listed, _⟩, found, rfl⟩ := Option.map_eq_some_iff.mp h
  obtain ⟨rfl, apart⟩ : listed = child ∧ _ ≠ child := by simpa using List.find?_some found
  exact ⟨apart, mem_listedChildren_iff.mp (List.mem_of_find?_eq_some found)⟩

theorem inferredParent_le (h : inferredParent nodes child = some parent) {other : NodeId}
    (apart : other ≠ child) (lists : Lists nodes other child) : parent ≤ other := by
  obtain ⟨entry, found, rfl⟩ := Option.map_eq_some_iff.mp h
  obtain ⟨_, before, after, split, earlier⟩ := List.find?_eq_some_iff_append.mp found
  have ordered := listedChildren_ordered nodes
  have there : (child, other) ∈ listedChildren nodes := mem_listedChildren_iff.mpr lists
  rw [split] at ordered there
  rcases List.mem_append.mp there with early | late
  · have skipped := earlier (child, other) early
    simp [apart] at skipped
  · rcases List.mem_cons.mp late with same | late
    · exact Nat.le_of_eq (congrArg Prod.snd same).symm
    · exact (List.pairwise_cons.mp (List.pairwise_append.mp ordered).2.1).1 _ late

theorem inferredParent_eq_some_iff : inferredParent nodes child = some parent ↔
    parent ≠ child ∧ Lists nodes parent child ∧
      ∀ other ≠ child, Lists nodes other child → parent ≤ other := by
  constructor
  · intro h
    obtain ⟨apart, lists⟩ := lists_of_inferredParent h
    exact ⟨apart, lists, fun _ => inferredParent_le h⟩
  · rintro ⟨apart, lists, first⟩
    cases h : inferredParent nodes child with
    | none => exact absurd lists (inferredParent_eq_none_iff.mp h parent apart)
    | some inferred =>
      obtain ⟨apart', lists'⟩ := lists_of_inferredParent h
      have le := inferredParent_le h apart lists
      have ge := first inferred apart' lists'
      exact congrArg some (Nat.le_antisymm le ge)

end Snapshot
end WidgetLocator
