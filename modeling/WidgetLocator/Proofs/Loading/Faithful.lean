import WidgetLocator.Proofs.Loading.Adoption
import WidgetLocator.Proofs.Loading.Closed
import Mathlib.Data.List.Nodup

namespace WidgetLocator

/-- The value that a written one stands for, given which nodes have which names. -/
inductive Json.StandsFor (named : NodeId → String → Prop) : Json → Value NodeId → Prop
  | null : StandsFor named .null .null
  | bool (b : Bool) : StandsFor named (.bool b) (.bool b)
  | number (n : JsonNumber) : StandsFor named (.number n) (.number n.toBinary64)
  | text (t : String) : StandsFor named (.text t) (.text t)
  | reference {id : String} {node : NodeId} : named node id →
      StandsFor named (.object [("$ref", .text id)]) (.object node)

/-- A written field with its name, and the one that is read from it. -/
def Json.FieldStandsFor (named : NodeId → String → Prop) (entry : String × Json)
    (field : String × Value NodeId) : Prop :=
  entry.1 = field.1 ∧ entry.2.StandsFor named field.2

/-- A node is as its definition says. -/
structure NodeDefinition.Describes (named : NodeId → String → Prop) (definition : NodeDefinition)
    (node : SnapshotNode) : Prop where
  className : definition.className = node.className
  items : Option.Rel (List.Forall₂ (Json.StandsFor named)) definition.items node.items
  children : Option.Rel (List.Forall₂ (Json.StandsFor named)) definition.children node.children
  members : List.Forall₂ (Json.FieldStandsFor named) definition.members.entries node.members
  properties :
    List.Forall₂ (Json.FieldStandsFor named) definition.properties.entries node.properties
  userData : List.Forall₂ (Json.FieldStandsFor named) definition.userData.entries node.userData
  element : definition.element = node.element
  enabled : definition.enabled = node.enabled
  parent : ∀ id ∈ definition.parent, ∃ parent ∈ node.parent, named parent id
  executable : definition.executable = node.executable

namespace Snapshot

/-- A node of the snapshot has a name. -/
def Names (snapshot : Snapshot) (node : NodeId) (id : String) : Prop :=
  node < snapshot.size ∧ snapshot.idOf node = id

/-- A snapshot is as its document says. -/
structure Faithful (document : SnapshotDocument) (snapshot : Snapshot) : Prop where
  isSome_node? : ∀ id, (snapshot.node? id).isSome ↔ id ∈ document.nodes.names
  names_of_node? : ∀ id node, snapshot.node? id = some node → snapshot.Names node id
  node?_idOf : ∀ node < snapshot.size, snapshot.node? (snapshot.idOf node) = some node
  nodes : ∀ entry ∈ document.nodes.entries, ∃ node, snapshot.Names node entry.1 ∧
    ∃ n ∈ snapshot.nodes[node]?, entry.2.Describes snapshot.Names n
  /-- A parent that is not written is a node whose definition has the node among its children. -/
  inferred : ∀ entry ∈ document.nodes.entries, entry.2.parent = none →
    ∀ node, snapshot.Names node entry.1 → ∀ parent ∈ snapshot.graph.parent node,
      ∃ container ∈ document.nodes.entries, snapshot.Names parent container.1 ∧
        ∃ children ∈ container.2.children, .object [("$ref", .text entry.1)] ∈ children
  location : snapshot.location = document.location.getD "about:snapshot"
  toolkit : snapshot.toolkit = document.toolkit.getD true
  application : Option.Rel snapshot.Names snapshot.application document.application
  clientDocument : Option.Rel snapshot.Names snapshot.clientDocument document.clientDocument
  classes : snapshot.classes = document.classes

section Reading

variable {ids : List String} {owner : String}

/-- The nodes are numbered in the order of their names. -/
def NumberedBy (ids : List String) (node : NodeId) (id : String) : Prop :=
  ids[node]? = some id

theorem lookup_numbered {id : String} {node : NodeId} (h : lookup ids owner id = .ok node) :
    NumberedBy ids node id := by
  unfold lookup at h
  split at h
  next i hi =>
    cases Except.ok.inj h
    obtain ⟨hlt, he, _⟩ := List.findIdx?_eq_some_iff_getElem.mp hi
    exact List.getElem?_eq_some_iff.mpr ⟨hlt, eq_of_beq he⟩
  next => cases h

theorem valueOf_standsFor {json : Json} {value : Value NodeId}
    (h : valueOf ids owner json = .ok value) : json.StandsFor (NumberedBy ids) value := by
  unfold valueOf at h
  split at h
  case h_5 id =>
    obtain ⟨node, hn, rfl⟩ := exists_of_map_eq_ok h
    exact .reference (lookup_numbered hn)
  case h_6 | h_7 => cases h
  all_goals
    cases Except.ok.inj h
    constructor

theorem valuesOf_standsFor {written : Option (List Json)} {values : Option (List (Value NodeId))}
    (h : valuesOf ids owner written = .ok values) :
    Option.Rel (List.Forall₂ (Json.StandsFor (NumberedBy ids))) written values := by
  cases written with
  | none =>
    cases Except.ok.inj h
    exact .none
  | some list =>
    obtain ⟨values, hv, rfl⟩ := exists_of_map_eq_ok h
    exact .some ((mapM_eq_ok_iff.mp hv).imp fun _ _ hj => valueOf_standsFor hj)

theorem fieldValuesOf_standsFor {fields : Fields Json} {values : List (String × Value NodeId)}
    (h : fieldValuesOf ids owner fields = .ok values) :
    List.Forall₂ (Json.FieldStandsFor (NumberedBy ids)) fields.entries values := by
  refine (mapM_eq_ok_iff.mp h).imp fun entry field he => ?_
  obtain ⟨value, hv, rfl⟩ := exists_of_map_eq_ok he
  exact ⟨rfl, valueOf_standsFor hv⟩

theorem lookup?_numbered {id : Option String} {node : Option NodeId}
    (h : lookup? ids owner id = .ok node) : Option.Rel (NumberedBy ids) node id := by
  cases id with
  | none =>
    cases Except.ok.inj h
    exact .none
  | some id =>
    obtain ⟨node, hn, rfl⟩ := exists_of_map_eq_ok h
    exact .some (lookup_numbered hn)

/-- Nothing is known of the parent of a node for which none is written. -/
theorem nodeOf_describes {definition : NodeDefinition} {node : SnapshotNode}
    (h : nodeOf ids owner definition = .ok node) :
    definition.Describes (NumberedBy ids) node ∧ (definition.parent = none → node.parent = none) := by
  obtain ⟨items, hi, h⟩ := exists_of_bind_eq_ok h
  obtain ⟨children, hc, h⟩ := exists_of_bind_eq_ok h
  obtain ⟨members, hm, h⟩ := exists_of_bind_eq_ok h
  obtain ⟨properties, hp, h⟩ := exists_of_bind_eq_ok h
  obtain ⟨userData, hu, h⟩ := exists_of_bind_eq_ok h
  obtain ⟨parent, hr, h⟩ := exists_of_bind_eq_ok h
  cases Except.ok.inj h
  have hr := lookup?_numbered hr
  constructor
  · refine ⟨rfl, valuesOf_standsFor hi, valuesOf_standsFor hc, fieldValuesOf_standsFor hm,
      fieldValuesOf_standsFor hp, fieldValuesOf_standsFor hu, rfl, rfl, ?_, rfl⟩
    intro id hid
    rw [Option.mem_def.mp hid] at hr
    cases hr with
    | some named => exact ⟨_, rfl, named⟩
  · intro none
    rw [none] at hr
    cases hr
    rfl

/-- What a node holds, its parent apart, is not changed by the inference of parents. -/
theorem describes_of_parent {named : NodeId → String → Prop} {definition : NodeDefinition}
    {node : SnapshotNode} (h : definition.Describes named node) (inferred : Option NodeId) :
    definition.Describes named { node with parent := node.parent <|> inferred } := by
  refine { h with parent := fun id hid => ?_ }
  obtain ⟨parent, hp, named⟩ := h.parent id hid
  exact ⟨parent, by simp [Option.mem_def.mp hp], named⟩

theorem reference_mem_of_object_mem {named : NodeId → String → Prop} {definition : NodeDefinition}
    {node : SnapshotNode} (h : definition.Describes named node) {child : NodeId}
    (hc : .object child ∈ node.children.getD []) :
    ∃ id, named child id ∧ ∃ children ∈ definition.children,
      .object [("$ref", .text id)] ∈ children := by
  have children := h.children
  cases hn : node.children with
  | none => simp [hn] at hc
  | some values =>
    rw [hn] at children
    rw [hn, Option.getD_some] at hc
    cases hd : definition.children with
    | none => simp [hd] at children
    | some written =>
      rw [hd] at children
      cases children with
      | some related =>
        obtain ⟨json, hj, stands⟩ := exists_of_mem_right related hc
        cases stands with
        | @reference id _ hid => exact ⟨id, hid, written, rfl, hj⟩

end Reading

section Loaded

variable {document : SnapshotDocument} {snapshot : Snapshot}

theorem exists_of_ofDocument (h : ofDocument document = .ok snapshot) :
    ∃ nodes, nodesOf document = .ok nodes ∧
      ∃ named, ofNodes document (inferParents nodes).toArray named = .ok snapshot := by
  unfold ofDocument at h
  split at h
  next => cases h
  next nodes read => exact ⟨nodes, read, _, h⟩

theorem exists_roots_of_ofNodes {nodes : Array SnapshotNode}
    {named : nodes.size = document.nodes.names.toArray.size}
    (h : ofNodes document nodes named = .ok snapshot) :
    ∃ application clientDocument,
      lookup? document.nodes.names "application" document.application = .ok application ∧
      lookup? document.nodes.names "clientDocument" document.clientDocument = .ok clientDocument ∧
      snapshot = ⟨document.location.getD "about:snapshot", document.toolkit.getD true, application,
        clientDocument, document.classes, document.nodes.names.toArray, nodes, named⟩ := by
  obtain ⟨application, ha, h⟩ := exists_of_bind_eq_ok h
  obtain ⟨clientDocument, hc, h⟩ := exists_of_bind_eq_ok h
  exact ⟨application, clientDocument, ha, hc, (Except.ok.inj h).symm⟩

theorem exists_nodes_of_ofDocument (h : ofDocument document = .ok snapshot) :
    ∃ nodes,
      List.Forall₂ (fun entry node => nodeOf document.nodes.names entry.1 entry.2 = .ok node)
        document.nodes.entries nodes ∧
      snapshot.ids = document.nodes.names.toArray ∧
      snapshot.nodes = (inferParents nodes).toArray := by
  obtain ⟨nodes, read, _, h⟩ := exists_of_ofDocument h
  obtain ⟨_, _, _, _, rfl⟩ := exists_roots_of_ofNodes h
  exact ⟨nodes, mapM_eq_ok_iff.mp read, rfl, rfl⟩

theorem names_nodup (document : SnapshotDocument) : document.nodes.names.Nodup := by
  refine List.pairwise_map.mpr (document.nodes.sorted.imp ?_)
  intro first second lt he
  exact String.lt_irrefl _ (he ▸ lt)

theorem size_of_ofDocument (h : ofDocument document = .ok snapshot) :
    snapshot.size = document.nodes.names.length := by
  obtain ⟨_, _, ids, _⟩ := exists_nodes_of_ofDocument h
  rw [size, snapshot.named, ids, List.size_toArray]

theorem names_iff_numberedBy (h : ofDocument document = .ok snapshot) {node : NodeId} {id : String} :
    snapshot.Names node id ↔ NumberedBy document.nodes.names node id := by
  obtain ⟨_, _, hi, _⟩ := exists_nodes_of_ofDocument h
  rw [Names, size_of_ofDocument h, idOf, hi, NumberedBy, List.getElem?_toArray]
  constructor
  · rintro ⟨hlt, he⟩
    rw [List.getElem?_eq_getElem hlt] at he ⊢
    exact congrArg some he
  · intro he
    exact ⟨(List.getElem?_eq_some_iff.mp he).1, by simp [he]⟩

theorem node?_eq_some_iff (h : ofDocument document = .ok snapshot) {id : String} {node : NodeId} :
    snapshot.node? id = some node ↔ snapshot.Names node id := by
  obtain ⟨_, _, hi, _⟩ := exists_nodes_of_ofDocument h
  have distinct := names_nodup document
  rw [names_iff_numberedBy h, node?, hi, List.findIdx?_toArray, List.findIdx?_eq_some_iff_getElem,
    NumberedBy, List.getElem?_eq_some_iff]
  constructor
  · rintro ⟨hlt, he, _⟩
    exact ⟨hlt, eq_of_beq he⟩
  · rintro ⟨hlt, rfl⟩
    refine ⟨hlt, beq_self_eq_true _, fun j hj => ?_⟩
    have apart : j ≠ node := by omega
    simpa using fun he => apart ((List.Nodup.getElem_inj_iff distinct).mp he)

theorem isSome_node?_iff (h : ofDocument document = .ok snapshot) (id : String) :
    (snapshot.node? id).isSome ↔ id ∈ document.nodes.names := by
  rw [Option.isSome_iff_exists, List.mem_iff_getElem?]
  exact exists_congr fun node => (node?_eq_some_iff h).trans (names_iff_numberedBy h)

theorem names_funext (h : ofDocument document = .ok snapshot) :
    snapshot.Names = NumberedBy document.nodes.names := by
  funext node id
  exact propext (names_iff_numberedBy h)

theorem numberedBy_iff {node : NodeId} {id : String} :
    NumberedBy document.nodes.names node id ↔
      ∃ definition, document.nodes.entries[node]? = some (id, definition) := by
  simp [NumberedBy, Table.names, Option.map_eq_some_iff]

/-- A node of a loaded snapshot comes from the definition at its place. -/
theorem exists_described (h : ofDocument document = .ok snapshot) {node : NodeId}
    {entry : String × NodeDefinition} (he : document.nodes.entries[node]? = some entry) :
    snapshot.Names node entry.1 ∧ ∃ n ∈ snapshot.nodes[node]?,
      entry.2.Describes snapshot.Names n := by
  obtain ⟨nodes, related, _, hn⟩ := exists_nodes_of_ofDocument h
  obtain ⟨n, hi, read⟩ := exists_of_getElem?_left related he
  rw [names_funext h]
  refine ⟨numberedBy_iff.mpr ⟨entry.2, he⟩, _, ?_,
    describes_of_parent (nodeOf_describes read).1 (inferredParent nodes node)⟩
  simp [hn, getElem?_inferParents, hi]

theorem exists_container (h : ofDocument document = .ok snapshot) {node parent : NodeId}
    {entry : String × NodeDefinition} (he : document.nodes.entries[node]? = some entry)
    (unwritten : entry.2.parent = none) (hp : snapshot.graph.parent node = some parent) :
    ∃ container ∈ document.nodes.entries, snapshot.Names parent container.1 ∧
      ∃ children ∈ container.2.children, .object [("$ref", .text entry.1)] ∈ children := by
  obtain ⟨nodes, related, _, hn⟩ := exists_nodes_of_ofDocument h
  obtain ⟨n, hi, read⟩ := exists_of_getElem?_left related he
  have inferred : inferredParent nodes node = some parent := by
    have none := (nodeOf_describes read).2 unwritten
    simpa [graph, hn, getElem?_inferParents, hi, none] using hp
  obtain ⟨_, container, hc, hm⟩ := lists_of_inferredParent inferred
  obtain ⟨written, hw, readContainer⟩ := exists_of_getElem?_right related hc
  obtain ⟨id, hid, reference⟩ :=
    reference_mem_of_object_mem (nodeOf_describes readContainer).1 hm
  have same : id = entry.1 := by
    obtain ⟨definition, hd⟩ := numberedBy_iff.mp hid
    rw [he] at hd
    cases Option.some.inj hd
    rfl
  refine ⟨written, List.mem_of_getElem? hw, ?_, same ▸ reference⟩
  exact (names_iff_numberedBy h).mpr (numberedBy_iff.mpr ⟨written.2, hw⟩)

theorem faithful_of_ofDocument (h : ofDocument document = .ok snapshot) :
    snapshot.Faithful document := by
  have roots : Option.Rel snapshot.Names snapshot.application document.application ∧
      Option.Rel snapshot.Names snapshot.clientDocument document.clientDocument ∧
      snapshot.location = document.location.getD "about:snapshot" ∧
      snapshot.toolkit = document.toolkit.getD true ∧ snapshot.classes = document.classes := by
    rw [names_funext h]
    obtain ⟨_, _, _, h⟩ := exists_of_ofDocument h
    obtain ⟨application, clientDocument, ha, hc, rfl⟩ := exists_roots_of_ofNodes h
    exact ⟨lookup?_numbered ha, lookup?_numbered hc, rfl, rfl, rfl⟩
  obtain ⟨application, clientDocument, location, toolkit, classes⟩ := roots
  refine ⟨isSome_node?_iff h, fun id node => (node?_eq_some_iff h).mp, ?_, ?_, ?_, location, toolkit,
    application, clientDocument, classes⟩
  · intro node hlt
    exact (node?_eq_some_iff h).mpr ⟨hlt, rfl⟩
  · intro entry he
    obtain ⟨node, hn⟩ := List.mem_iff_getElem?.mp he
    exact ⟨node, exists_described h hn⟩
  · intro entry he unwritten node named parent hp
    -- the name belongs to one place only
    obtain ⟨place, hn⟩ := List.mem_iff_getElem?.mp he
    have there := (node?_eq_some_iff h).mpr (exists_described h hn).1
    have here := (node?_eq_some_iff h).mpr named
    obtain rfl := Option.some.inj (there.symm.trans here)
    exact exists_container h hn unwritten hp

theorem Faithful.unique (h : snapshot.Faithful document) {node other : NodeId} {id : String}
    (hn : snapshot.Names node id) (ho : snapshot.Names other id) : node = other := by
  have first := h.node?_idOf node hn.1
  have second := h.node?_idOf other ho.1
  rw [hn.2] at first
  rw [ho.2] at second
  exact Option.some.inj (first.symm.trans second)

theorem Faithful.exists_names (h : snapshot.Faithful document) {id : String}
    (hid : id ∈ document.nodes.names) : ∃ node, snapshot.Names node id := by
  obtain ⟨node, hn⟩ := Option.isSome_iff_exists.mp ((h.isSome_node? id).mpr hid)
  exact ⟨node, h.names_of_node? id node hn⟩

theorem Faithful.exists_definition (h : snapshot.Faithful document) {node : NodeId}
    (hn : node < snapshot.size) :
    ∃ entry ∈ document.nodes.entries, snapshot.Names node entry.1 := by
  have known := (h.isSome_node? (snapshot.idOf node)).mp (by rw [h.node?_idOf node hn]; rfl)
  obtain ⟨entry, he, hid⟩ := List.mem_map.mp known
  exact ⟨entry, he, hn, hid.symm⟩

theorem Faithful.describes (h : snapshot.Faithful document) {node : NodeId}
    {entry : String × NodeDefinition} (he : entry ∈ document.nodes.entries)
    (hn : snapshot.Names node entry.1) :
    ∃ n, snapshot.nodes[node]? = some n ∧ entry.2.Describes snapshot.Names n := by
  obtain ⟨place, named, n, hp, describes⟩ := h.nodes entry he
  obtain rfl := h.unique named hn
  exact ⟨n, hp, describes⟩

/-- Loading accepts closed documents, refuses all others as snapshots, and what it makes of a
document is faithful to it. -/
theorem loads_closed_faithfully (document : SnapshotDocument) :
    ((∃ snapshot, ofDocument document = .ok snapshot) ↔ document.Closed) ∧
    (¬document.Closed → ∃ fault, ofDocument document = .error (.snapshot fault)) ∧
    ∀ snapshot, ofDocument document = .ok snapshot → snapshot.Faithful document := by
  have decides := ofDocument_decides document
  refine ⟨⟨?_, decides.accepts⟩, decides.refuses, fun snapshot => faithful_of_ofDocument⟩
  rintro ⟨snapshot, h⟩
  exact decides.holds h

end Loaded

/-- A definition of a node with another one behind each of its fields. -/
def referringTo (id : String) : NodeDefinition where
  className := some "qx.ui.Widget"
  items := some [.null, .object [("$ref", .text id)]]
  children := some [.object [("$ref", .text id)], .text "label"]
  members := ⟨[("next", .object [("$ref", .text id)]), ("count", .number (.integer 3))], by simp⟩
  properties := ⟨[("first", .object [("$ref", .text id)])], by simp⟩
  userData := ⟨[("tag", .bool true)], by simp⟩
  element := none
  enabled := none
  parent := some id
  executable := false

/-- A document with a node that refers to another one, which is there or not. -/
def withReferrer (entries : List (String × NodeDefinition))
    (sorted : (entries ++ [("b", referringTo "a")]).Pairwise (·.1 < ·.1)) : SnapshotDocument where
  location := none
  toolkit := none
  application := some "b"
  clientDocument := none
  classes := none
  nodes := ⟨entries ++ [("b", referringTo "a")], sorted⟩

theorem loads_closed_faithfully_withReferrer :
    (∃ snapshot : Snapshot, snapshot.Faithful (withReferrer [("a", referringTo "b")] (by decide)) ∧
      snapshot.idOf 1 = "b" ∧ snapshot.graph.items 1 = some [.null, .object 0]) ∧
    ∃ fault, ofDocument (withReferrer [] (by decide)) = .error (.snapshot fault) := by
  constructor
  · refine ⟨_, (loads_closed_faithfully (withReferrer [("a", referringTo "b")] (by decide))).2.2 _ rfl,
      ?_, ?_⟩
    · rfl
    · rfl
  · refine (loads_closed_faithfully (withReferrer [] (by decide))).2.1 fun closed => ?_
    have parent := (closed.nodes ("b", referringTo "a") (by simp [withReferrer])).parent "a" rfl
    simp [withReferrer, Table.names] at parent

end Snapshot
end WidgetLocator
