import WidgetLocator.Snapshot.Report
import WidgetLocator.Proofs.Loading.Faithful
import WidgetLocator.Proofs.Search.Loaded
import WidgetLocator.Proofs.Search.Renaming

namespace WidgetLocator

/-- A document has the nodes of another one and possibly more, and is like it otherwise. -/
structure SnapshotDocument.Extends (larger document : SnapshotDocument) : Prop where
  nodes : document.nodes.entries ⊆ larger.nodes.entries
  classes : larger.classes = document.classes
  toolkit : larger.toolkit = document.toolkit
  location : larger.location = document.location
  application : larger.application = document.application
  clientDocument : larger.clientDocument = document.clientDocument

/-- Two values that stand for the same written one are the same up to the numbers of nodes. -/
theorem Json.StandsFor.eq_map {named named' : NodeId → String → Prop} {f : NodeId → NodeId}
    (renamed : ∀ node node' id, named node id → named' node' id → node' = f node) {json : Json}
    {value value' : Value NodeId} (h : json.StandsFor named value)
    (h' : json.StandsFor named' value') : value' = value.map f := by
  cases h with
  | reference hn =>
    cases h' with
    | reference hn' => rw [renamed _ _ _ hn hn', Value.map]
  | null | bool | number | text =>
    cases h'
    rfl

/-- What searches see of a node is the same up to the numbers of nodes. -/
structure SnapshotNode.Renamed (f : NodeId → NodeId) (node other : SnapshotNode) : Prop where
  className : other.className = node.className
  items : other.items = node.items.map (List.map (Value.map f))
  children : other.children = node.children.map (List.map (Value.map f))
  members : other.members = node.members.map (Value.mapField f)
  properties : other.properties = node.properties.map (Value.mapField f)
  userData : other.userData = node.userData.map (Value.mapField f)
  element : other.element = node.element

section Nodes

variable {named named' : NodeId → String → Prop} {f : NodeId → NodeId}

theorem eq_map_of_standsFor
    (renamed : ∀ node node' id, named node id → named' node' id → node' = f node)
    {written : Option (List Json)} {values values' : Option (List (Value NodeId))}
    (h : Option.Rel (List.Forall₂ (Json.StandsFor named)) written values)
    (h' : Option.Rel (List.Forall₂ (Json.StandsFor named')) written values') :
    values' = values.map (List.map (Value.map f)) := by
  cases h with
  | none =>
    cases h'
    rfl
  | some h =>
    cases h' with
    | some h' => exact congrArg some (eq_map_of_forall₂ h h' fun _ _ _ hv hv' => hv.eq_map renamed hv')

theorem eq_map_of_fieldStandsFor
    (renamed : ∀ node node' id, named node id → named' node' id → node' = f node)
    {entries : List (String × Json)} {fields fields' : List (String × Value NodeId)}
    (h : List.Forall₂ (Json.FieldStandsFor named) entries fields)
    (h' : List.Forall₂ (Json.FieldStandsFor named') entries fields') :
    fields' = fields.map (Value.mapField f) := by
  refine eq_map_of_forall₂ h h' ?_
  rintro entry ⟨name, value⟩ ⟨name', value'⟩ ⟨hn, hv⟩ ⟨hn', hv'⟩
  exact Prod.ext (hn'.symm.trans hn) (hv.eq_map renamed hv')

theorem NodeDefinition.Describes.renamed
    (renamed : ∀ node node' id, named node id → named' node' id → node' = f node)
    {definition : NodeDefinition} {node other : SnapshotNode} (h : definition.Describes named node)
    (h' : definition.Describes named' other) : node.Renamed f other where
  className := h'.className.symm.trans h.className
  items := eq_map_of_standsFor renamed h.items h'.items
  children := eq_map_of_standsFor renamed h.children h'.children
  members := eq_map_of_fieldStandsFor renamed h.members h'.members
  properties := eq_map_of_fieldStandsFor renamed h.properties h'.properties
  userData := eq_map_of_fieldStandsFor renamed h.userData h'.userData
  element := h'.element.symm.trans h.element

end Nodes

namespace Snapshot

/-- The number in a larger snapshot of the node with a number. Numbers of no node stay such. -/
def placeIn (snapshot larger : Snapshot) (node : NodeId) : NodeId :=
  if node < snapshot.size then (larger.node? (snapshot.idOf node)).getD 0 else larger.size + node

section Extension

variable {document more : SnapshotDocument} {snapshot larger : Snapshot}

theorem placeIn_of_not_lt {node : NodeId} (hn : ¬node < snapshot.size) :
    snapshot.placeIn larger node = larger.size + node :=
  if_neg hn

theorem size_le_placeIn {node : NodeId} (hn : ¬node < snapshot.size) :
    larger.size ≤ snapshot.placeIn larger node :=
  placeIn_of_not_lt hn ▸ Nat.le_add_right _ _

section Places

variable (h : snapshot.Faithful document) (hl : larger.Faithful more) (extended : more.Extends document)

include h hl extended

theorem names_placeIn {node : NodeId} {id : String} (hn : snapshot.Names node id) :
    larger.Names (snapshot.placeIn larger node) id := by
  obtain ⟨entry, he, named⟩ := h.exists_definition hn.1
  have hid : id ∈ more.nodes.names := by
    rw [← hn.2, named.2]
    exact List.mem_map_of_mem (extended.nodes he)
  obtain ⟨place, hp⟩ := hl.exists_names hid
  have found : larger.node? (snapshot.idOf node) = some place := by
    rw [hn.2, ← hp.2]
    exact hl.node?_idOf place hp.1
  simpa [placeIn, hn.1, found] using hp

theorem placeIn_injective : Function.Injective (snapshot.placeIn larger) := by
  intro node other he
  have inside : ∀ {v}, v < snapshot.size → larger.Names (snapshot.placeIn larger v) (snapshot.idOf v) :=
    fun hv => names_placeIn h hl extended ⟨hv, rfl⟩
  by_cases hn : node < snapshot.size <;> by_cases ho : other < snapshot.size
  · have same := (inside hn).2.symm.trans (he ▸ (inside ho).2)
    exact h.unique ⟨hn, rfl⟩ ⟨ho, same.symm⟩
  · exact absurd (he ▸ (inside hn).1) (Nat.not_lt.mpr (size_le_placeIn ho))
  · exact absurd (he ▸ (inside ho).1) (Nat.not_lt.mpr (size_le_placeIn hn))
  · rw [placeIn_of_not_lt hn, placeIn_of_not_lt ho] at he
    exact Nat.add_left_cancel he

theorem renamed_placeIn (node : NodeId) :
    Option.Rel (SnapshotNode.Renamed (snapshot.placeIn larger)) snapshot.nodes[node]?
      larger.nodes[snapshot.placeIn larger node]? := by
  by_cases hn : node < snapshot.size
  · obtain ⟨entry, he, named⟩ := h.exists_definition hn
    obtain ⟨n, hnode, describes⟩ := h.describes he named
    obtain ⟨n', hnode', describes'⟩ :=
      hl.describes (extended.nodes he) (names_placeIn h hl extended named)
    rw [hnode, hnode']
    refine .some (describes.renamed ?_ describes')
    intro v v' id hv hv'
    exact hl.unique hv' (names_placeIn h hl extended hv)
  · rw [Array.getElem?_eq_none (Nat.le_of_not_lt hn), Array.getElem?_eq_none (size_le_placeIn hn)]
    exact .none

/-- What is read from a node is the same up to the numbers of nodes, and so is that nothing is read
from the number of no node. -/
theorem bind_placeIn {α : Type} {read : SnapshotNode → Option α} {rename : Option α → Option α}
    (nothing : rename none = none)
    (each : ∀ n n', n.Renamed (snapshot.placeIn larger) n' → read n' = rename (read n))
    (node : NodeId) :
    larger.nodes[snapshot.placeIn larger node]?.bind read =
      rename (snapshot.nodes[node]?.bind read) := by
  have renamed := renamed_placeIn h hl extended node
  generalize snapshot.nodes[node]? = n, larger.nodes[snapshot.placeIn larger node]? = n' at renamed ⊢
  cases renamed with
  | none => exact nothing.symm
  | some renamed => exact each _ _ renamed

theorem read_placeIn {α : Type} {read : SnapshotNode → Option α}
    (each : ∀ n n', n.Renamed (snapshot.placeIn larger) n' → read n' = read n) (node : NodeId) :
    larger.nodes[snapshot.placeIn larger node]?.bind read = snapshot.nodes[node]?.bind read := by
  have same : larger.nodes[snapshot.placeIn larger node]?.bind read =
      id (snapshot.nodes[node]?.bind read) := bind_placeIn h hl extended rfl each node
  exact same

theorem classOf_placeIn (node : NodeId) :
    larger.classOf (snapshot.placeIn larger node) = snapshot.classOf node :=
  read_placeIn h hl extended (fun _ _ renamed => renamed.className) node

theorem elementOf_placeIn (node : NodeId) :
    larger.elementOf (snapshot.placeIn larger node) = snapshot.elementOf node :=
  read_placeIn h hl extended (fun _ _ renamed => renamed.element) node

theorem display_placeIn (node : NodeId) :
    larger.display (snapshot.placeIn larger node) = snapshot.display node := by
  unfold display
  rw [classOf_placeIn h hl extended]
  split
  next c hc =>
    have inside : node < snapshot.size := by
      by_contra hn
      simp [classOf, Array.getElem?_eq_none (Nat.le_of_not_lt hn)] at hc
    rw [(names_placeIn h hl extended ⟨inside, rfl⟩).2]
  next => rfl

theorem members_placeIn (node : NodeId) :
    larger.graph.members (snapshot.placeIn larger node) =
      (snapshot.graph.members node).map (Value.mapField (snapshot.placeIn larger)) := by
  have renamed := renamed_placeIn h hl extended node
  simp only [graph]
  generalize snapshot.nodes[node]? = n, larger.nodes[snapshot.placeIn larger node]? = n' at renamed ⊢
  cases renamed with
  | none => rfl
  | some renamed => exact renamed.members

theorem member_placeIn (node : NodeId) (name : String) :
    larger.graph.member (snapshot.placeIn larger node) name =
      (snapshot.graph.member node name).map (Value.map (snapshot.placeIn larger)) := by
  have members := members_placeIn h hl extended node
  exact (congrArg (field? · name) members).trans (field?_mapField _ _ name)

/-- The value of a field, or a value without nodes in its place. -/
theorem field_placeIn {fields : SnapshotNode → List (String × Value NodeId)} {absent : Value NodeId}
    (scalar : absent.map (snapshot.placeIn larger) = absent)
    (each : ∀ n n', n.Renamed (snapshot.placeIn larger) n' →
      fields n' = (fields n).map (Value.mapField (snapshot.placeIn larger)))
    (node : NodeId) (key : String) :
    (larger.nodes[snapshot.placeIn larger node]?.bind fun n => field? (fields n) key).getD absent =
      ((snapshot.nodes[node]?.bind fun n => field? (fields n) key).getD absent).map
        (snapshot.placeIn larger) := by
  have read : (larger.nodes[snapshot.placeIn larger node]?.bind fun n => field? (fields n) key) =
      (snapshot.nodes[node]?.bind fun n => field? (fields n) key).map
        (Value.map (snapshot.placeIn larger)) :=
    bind_placeIn h hl extended rfl (fun n n' renamed => by rw [each n n' renamed, field?_mapField])
      node
  rw [read]
  cases snapshot.nodes[node]?.bind fun n => field? (fields n) key with
  | none => exact scalar.symm
  | some value => rfl

theorem graph_embeds : snapshot.graph.Embeds (snapshot.placeIn larger) larger.graph where
  injective := placeIn_injective h hl extended
  items := bind_placeIn h hl extended rfl fun _ _ renamed => renamed.items
  children := bind_placeIn h hl extended rfl fun _ _ renamed => renamed.children
  members := members_placeIn h hl extended
  member := member_placeIn h hl extended
  userData := field_placeIn h hl extended rfl fun _ _ renamed => renamed.userData
  display := display_placeIn h hl extended
  stringify value := textOf_map _ value (display_placeIn h hl extended)

theorem classes_eq : larger.classes = snapshot.classes := by
  rw [hl.classes, h.classes, extended.classes]

theorem classesOf_placeIn (node : NodeId) :
    larger.classesOf (snapshot.placeIn larger node) = snapshot.classesOf node := by
  unfold classesOf
  rw [classOf_placeIn h hl extended]
  simp only [classChain, classes_eq h hl extended]

theorem typeRegistry_embeds :
    snapshot.typeRegistry.Embeds (snapshot.placeIn larger) larger.typeRegistry where
  classByName := by simp only [typeRegistry, classes_eq h hl extended]
  isInstance node c := by simp only [typeRegistry, classesOf_placeIn h hl extended]
  hasProperty node key := by simp only [typeRegistry, classesOf_placeIn h hl extended]
  property := field_placeIn h hl extended rfl fun _ _ renamed => renamed.properties

theorem root_placeIn {root root' : Option NodeId} {id : Option String}
    (named : Option.Rel snapshot.Names root id) (named' : Option.Rel larger.Names root' id) :
    root' = root.map (snapshot.placeIn larger) := by
  cases named with
  | none =>
    cases named'
    rfl
  | some named =>
    cases named' with
    | some named' => exact congrArg some (hl.unique named' (names_placeIn h hl extended named))

theorem clientRoot_placeIn :
    larger.window.clientRoot = snapshot.window.clientRoot.map (snapshot.placeIn larger) := by
  have application := root_placeIn h hl extended h.application (extended.application ▸ hl.application)
  have clientDocument :=
    root_placeIn h hl extended h.clientDocument (extended.clientDocument ▸ hl.clientDocument)
  simp only [window, application, Option.isSome_map, clientDocument]
  split <;> rfl

theorem window_embeds : snapshot.window.Embeds (snapshot.placeIn larger) larger.window where
  graph := graph_embeds h hl extended
  toolkit := (hl.toolkit.trans (extended.toolkit ▸ rfl)).trans h.toolkit.symm
  application := root_placeIn h hl extended h.application (extended.application ▸ hl.application)
  clientRoot := clientRoot_placeIn h hl extended
  registry := by
    simp only [window, registry?, classes_eq h hl extended]
    split
    · exact .some (typeRegistry_embeds h hl extended)
    · exact .none
  elementOf := elementOf_placeIn h hl extended
  locateXPath := rfl

end Places

theorem window_countsNodes (loaded : ofDocument document = .ok snapshot) :
    snapshot.window.CountsNodes (Finset.range snapshot.size) where
  descendants := descendantsIn_range loaded
  children := mem_range_of_childNodes loaded
  card := (Finset.card_range _).le

theorem idOf_of_size_le (loaded : ofDocument document = .ok snapshot) {node : NodeId}
    (hn : snapshot.size ≤ node) : snapshot.idOf node = "" := by
  obtain ⟨_, _, ids, _⟩ := exists_nodes_of_ofDocument loaded
  rw [size_of_ofDocument loaded] at hn
  rw [idOf, ids, List.getElem?_toArray, List.getElem?_eq_none hn]
  rfl

theorem idOf_placeIn (loaded : ofDocument document = .ok snapshot)
    (loadedMore : ofDocument more = .ok larger) (extended : more.Extends document) (node : NodeId) :
    larger.idOf (snapshot.placeIn larger node) = snapshot.idOf node := by
  have h := faithful_of_ofDocument loaded
  have hl := faithful_of_ofDocument loadedMore
  by_cases hn : node < snapshot.size
  · exact (names_placeIn h hl extended ⟨hn, rfl⟩).2
  · rw [idOf_of_size_le loadedMore (size_le_placeIn hn),
      idOf_of_size_le loaded (Nat.le_of_not_lt hn)]

/-- Nodes that are added to a snapshot do not change what a locator leads to, if following it has an
end without them: its widget has the same name, its element is the same, and so is its error. -/
theorem located_of_extends (loaded : ofDocument document = .ok snapshot)
    (loadedMore : ofDocument more = .ok larger) (extended : more.Extends document)
    (configuration : Configuration) (locator : QxLocator)
    (ends : (snapshot.dispatcher configuration).Ends locator) :
    (snapshot.dispatcher configuration).locateObject locator ≠ .error .endless ∧
    ((larger.dispatcher configuration).locateObject locator).map (Option.map larger.idOf) =
      ((snapshot.dispatcher configuration).locateObject locator).map (Option.map snapshot.idOf) ∧
    ∀ text, Locator.parse text = .ok (.qx locator) →
      (snapshot.dispatcher configuration).findElement text ≠ .error .endless ∧
      (larger.dispatcher configuration).findElement text =
        (snapshot.dispatcher configuration).findElement text := by
  have embeds : (snapshot.dispatcher configuration).Embeds (snapshot.placeIn larger)
      (larger.dispatcher configuration) :=
    ⟨window_embeds (faithful_of_ofDocument loaded) (faithful_of_ofDocument loadedMore) extended, rfl⟩
  have counts := window_countsNodes loaded
  obtain ⟨object, shown, _⟩ := embeds.of_ends counts (window_countsNodes loadedMore) ends
  have ends' : (snapshot.dispatcher configuration).locate locator ≠ .error .endless := by
    obtain ⟨n, hn⟩ := ends
    rw [(Dispatcher.locate_of_within counts hn).1]
    exact hn
  refine ⟨Dispatcher.locateObject_ne_endless ends', ?_, fun text parsed => ?_⟩
  · have ids : larger.idOf ∘ snapshot.placeIn larger = snapshot.idOf :=
      funext (idOf_placeIn loaded loadedMore extended)
    rw [object]
    rcases (snapshot.dispatcher configuration).locateObject locator with e | _ | node
    · rfl
    · rfl
    · exact congrArg (fun id => Except.ok (some id)) (congrFun ids node)
  · rw [Dispatcher.findElement_of_parse parsed, Dispatcher.findElement_of_parse parsed]
    exact ⟨fun he => ends' (map_eq_error_iff.mp he), shown⟩

end Extension

/-- A tagged definition of a node that has other nodes as its children. -/
def taggedParentOf (tag : String) (ids : List String) : NodeDefinition :=
  { parentOf ids with
    userData := ⟨[(tag, .bool true)], by simp⟩
    element := some tag }

/-- A parent with a tagged child, and nodes between them in the order of names. -/
def withBetween (entries : List (String × NodeDefinition))
    (sorted : (("a", parentOf ["c"]) :: entries ++ [("c", taggedParentOf "t" [])]).Pairwise
      (·.1 < ·.1)) : SnapshotDocument where
  location := none
  toolkit := none
  application := some "a"
  clientDocument := some "a"
  classes := none
  nodes := ⟨("a", parentOf ["c"]) :: entries ++ [("c", taggedParentOf "t" [])], sorted⟩

theorem located_of_extends_between :
    ∃ snapshot larger,
      ofDocument (withBetween [] (by decide)) = .ok snapshot ∧
      ofDocument (withBetween [("b", taggedParentOf "t" ["a"])] (by decide)) = .ok larger ∧
      snapshot.idOf 1 = "c" ∧ larger.idOf 1 = "b" ∧
      ((larger.dispatcher .standard).locateObject (.tagObject "t")).map (Option.map larger.idOf) =
        .ok (some "c") ∧
      (larger.dispatcher .standard).findElement "qxx=t" = .ok (some "t") := by
  have extended : (withBetween [("b", taggedParentOf "t" ["a"])] (by decide)).Extends
      (withBetween [] (by decide)) :=
    ⟨by simp [withBetween], rfl, rfl, rfl, rfl, rfl⟩
  obtain ⟨snapshot, loaded⟩ : ∃ snapshot, ofDocument (withBetween [] (by decide)) = .ok snapshot :=
    ⟨_, rfl⟩
  obtain ⟨larger, loadedMore⟩ : ∃ larger,
      ofDocument (withBetween [("b", taggedParentOf "t" ["a"])] (by decide)) = .ok larger := ⟨_, rfl⟩
  have ends : (snapshot.dispatcher .standard).Ends (.tagObject "t") := by
    cases loaded
    exact ⟨2, fun he => by cases he⟩
  have preserved := located_of_extends loaded loadedMore extended .standard (.tagObject "t") ends
  cases loaded
  cases loadedMore
  refine ⟨_, _, rfl, rfl, rfl, rfl, ?_, ?_⟩
  · exact preserved.2.1.trans rfl
  · exact (preserved.2.2 "qxx=t" rfl).2.trans rfl

end Snapshot
end WidgetLocator
