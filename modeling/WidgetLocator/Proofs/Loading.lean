import WidgetLocator.Proofs.Loading.Faithful

namespace WidgetLocator

/-- A value is no object outside the first nodes. -/
def Value.Below (size : Nat) (value : Value NodeId) : Prop :=
  ∀ node, value.object? = some node → node < size

/-- The objects that a node can have as descendants are below a bound. -/
structure SnapshotNode.Below (size : Nat) (node : SnapshotNode) : Prop where
  items : ∀ value ∈ node.items.getD [], value.Below size
  children : ∀ value ∈ node.children.getD [], value.Below size
  members : ∀ entry ∈ node.members, entry.2.Below size

section Below

variable {named : NodeId → String → Prop} {size : Nat}

theorem Json.StandsFor.below (inside : ∀ node id, named node id → node < size) {json : Json}
    {value : Value NodeId} (h : json.StandsFor named value) : value.Below size := by
  intro node hn
  cases h with
  | reference named =>
    cases Option.some.inj hn
    exact inside _ _ named
  | null | bool | number | text => simp [Value.object?] at hn

theorem below_of_standsFor (inside : ∀ node id, named node id → node < size)
    {written : Option (List Json)} {values : Option (List (Value NodeId))}
    (h : Option.Rel (List.Forall₂ (Json.StandsFor named)) written values) :
    ∀ value ∈ values.getD [], value.Below size := by
  intro value hv
  cases h with
  | none => simp at hv
  | some related =>
    obtain ⟨json, _, stands⟩ := exists_of_mem_right related hv
    exact stands.below inside

theorem below_of_fieldStandsFor (inside : ∀ node id, named node id → node < size)
    {entries : List (String × Json)} {fields : List (String × Value NodeId)}
    (h : List.Forall₂ (Json.FieldStandsFor named) entries fields) :
    ∀ field ∈ fields, field.2.Below size := by
  intro field hf
  obtain ⟨written, _, _, stands⟩ := exists_of_mem_right h hf
  exact stands.below inside

theorem NodeDefinition.Describes.below (inside : ∀ node id, named node id → node < size)
    {definition : NodeDefinition} {node : SnapshotNode} (h : definition.Describes named node) :
    node.Below size := by
  exact ⟨below_of_standsFor inside h.items, below_of_standsFor inside h.children,
    below_of_fieldStandsFor inside h.members⟩

end Below

namespace Snapshot

theorem exists_describes {document : SnapshotDocument} {snapshot : Snapshot}
    (h : ofDocument document = .ok snapshot) {node : SnapshotNode} (hm : node ∈ snapshot.nodes) :
    ∃ definition : NodeDefinition, definition.Describes snapshot.Names node := by
  have faithful := faithful_of_ofDocument h
  obtain ⟨i, hlt, hi⟩ := Array.mem_iff_getElem.mp hm
  obtain ⟨entry, he, named⟩ := faithful.exists_definition hlt
  obtain ⟨n, hn, describes⟩ := faithful.describes he named
  rw [Array.getElem?_eq_getElem hlt, hi] at hn
  cases Option.some.inj hn
  exact ⟨entry.2, describes⟩

theorem ofDocument_below {document : SnapshotDocument} {snapshot : Snapshot}
    (h : ofDocument document = .ok snapshot) :
    ∀ node ∈ snapshot.nodes, node.Below snapshot.size := by
  intro node hm
  obtain ⟨_, describes⟩ := exists_describes h hm
  exact describes.below fun _ _ named => named.1

theorem properties_below {document : SnapshotDocument} {snapshot : Snapshot}
    (h : ofDocument document = .ok snapshot) :
    ∀ node ∈ snapshot.nodes, ∀ entry ∈ node.properties, entry.2.Below snapshot.size := by
  intro node hm
  obtain ⟨_, describes⟩ := exists_describes h hm
  exact below_of_fieldStandsFor (fun _ _ named => named.1) describes.properties

theorem exists_node_of_descendant {snapshot : Snapshot} {node child : NodeId}
    (h : child ∈ snapshot.graph.descendants node) :
    ∃ n ∈ snapshot.nodes, .object child ∈ n.items.getD [] ∨ .object child ∈ n.children.getD [] ∨
      ∃ name, (name, .object child) ∈ n.members := by
  obtain ⟨value, hv, ho⟩ := List.mem_filterMap.mp (List.mem_filter.mp h).1
  obtain rfl := Value.eq_object_of_object? ho
  have hn : snapshot.nodes[node]? ≠ none := by
    intro hn
    simp [WidgetGraph.contents, graph, hn] at hv
  obtain ⟨n, hn⟩ := Option.ne_none_iff_exists'.mp hn
  refine ⟨n, Array.mem_of_getElem? hn, ?_⟩
  simp only [WidgetGraph.contents, graph, hn, Option.bind_some, Option.map_some,
    Option.getD_some] at hv
  split at hv
  next hi =>
    rw [hi]
    exact Or.inl hv
  next _ hc =>
    rw [hc]
    exact Or.inr (Or.inl hv)
  next =>
    obtain ⟨⟨name, value⟩, he, rfl⟩ := List.mem_map.mp hv
    exact Or.inr (Or.inr ⟨name, he⟩)

/-- A loaded snapshot is a finite graph. -/
theorem descendants_lt {document : SnapshotDocument} {snapshot : Snapshot}
    (h : ofDocument document = .ok snapshot) {node child : NodeId}
    (hc : child ∈ snapshot.graph.descendants node) : child < snapshot.size := by
  obtain ⟨n, hn, hi | hi | ⟨name, hi⟩⟩ := exists_node_of_descendant hc
  · exact (ofDocument_below h n hn).items _ hi child rfl
  · exact (ofDocument_below h n hn).children _ hi child rfl
  · exact (ofDocument_below h n hn).members _ hi child rfl

theorem parent_lt {document : SnapshotDocument} {snapshot : Snapshot}
    (h : ofDocument document = .ok snapshot) {node parent : NodeId}
    (hp : snapshot.graph.parent node = some parent) : parent < snapshot.size := by
  have faithful := faithful_of_ofDocument h
  obtain ⟨n, hn, up⟩ := Option.bind_eq_some_iff.mp hp
  have inside : node < snapshot.size := (Array.getElem?_eq_some_iff.mp hn).1
  obtain ⟨entry, he, named⟩ := faithful.exists_definition inside
  cases written : entry.2.parent with
  | none =>
    obtain ⟨_, _, named, _⟩ := faithful.inferred entry he written node named parent hp
    exact named.1
  | some id =>
    obtain ⟨n', hn', describes⟩ := faithful.describes he named
    cases hn.symm.trans hn'
    obtain ⟨parent', hp', named⟩ := describes.parent id written
    cases up.symm.trans hp'
    exact named.1

end Snapshot
end WidgetLocator
