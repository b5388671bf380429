import WidgetLocator.Snapshot
import WidgetLocator.Proofs.Results

namespace WidgetLocator

/-- A scalar, or a reference to a node with one of the names. -/
inductive Json.ClosedIn (ids : List String) : Json → Prop
  | null : ClosedIn ids .null
  | bool (b : Bool) : ClosedIn ids (.bool b)
  | number (n : JsonNumber) : ClosedIn ids (.number n)
  | text (t : String) : ClosedIn ids (.text t)
  | reference {id : String} : id ∈ ids → ClosedIn ids (.object [("$ref", .text id)])

structure NodeDefinition.ClosedIn (ids : List String) (definition : NodeDefinition) : Prop where
  items : ∀ values ∈ definition.items, ∀ value ∈ values, value.ClosedIn ids
  children : ∀ values ∈ definition.children, ∀ value ∈ values, value.ClosedIn ids
  members : ∀ entry ∈ definition.members.entries, entry.2.ClosedIn ids
  properties : ∀ entry ∈ definition.properties.entries, entry.2.ClosedIn ids
  userData : ∀ entry ∈ definition.userData.entries, entry.2.ClosedIn ids
  parent : ∀ id ∈ definition.parent, id ∈ ids

structure SnapshotDocument.Closed (document : SnapshotDocument) : Prop where
  nodes : ∀ entry ∈ document.nodes.entries, entry.2.ClosedIn document.nodes.names
  application : ∀ id ∈ document.application, id ∈ document.nodes.names
  clientDocument : ∀ id ∈ document.clientDocument, id ∈ document.nodes.names

/-- A reading succeeds if a condition holds, and otherwise finds a fault in the snapshot. -/
structure Decides {α : Type} (reading : Except Error α) (condition : Prop) : Prop where
  accepts : condition → ∃ a, reading = .ok a
  refuses : ¬condition → ∃ fault, reading = .error (.snapshot fault)

namespace Decides

variable {α β : Type} {reading : Except Error α} {condition other : Prop}

theorem holds (h : Decides reading condition) {a : α} (ha : reading = .ok a) : condition := by
  by_contra hc
  obtain ⟨fault, hf⟩ := h.refuses hc
  cases ha.symm.trans hf

theorem exists_fault (h : Decides reading condition) {e : Error} (he : reading = .error e) :
    ¬condition ∧ ∃ fault, e = .snapshot fault := by
  have hc : ¬condition := by
    intro hc
    obtain ⟨a, ha⟩ := h.accepts hc
    cases he.symm.trans ha
  obtain ⟨fault, hf⟩ := h.refuses hc
  exact ⟨hc, fault, Except.error.inj (he.symm.trans hf)⟩

theorem of_ok {a : α} (h : condition) : Decides (.ok a) condition :=
  ⟨fun _ => ⟨a, rfl⟩, fun hn => absurd h hn⟩

theorem of_pure {a : α} : Decides (pure a) True :=
  of_ok trivial

theorem of_fault {fault : SnapshotFault} (h : ¬condition) :
    Decides (.error (.snapshot fault) : Except Error α) condition :=
  ⟨fun hc => absurd hc h, fun _ => ⟨fault, rfl⟩⟩

theorem of_iff (h : Decides reading condition) (iff : condition ↔ other) : Decides reading other :=
  ⟨fun ho => h.accepts (iff.mpr ho), fun ho => h.refuses fun hc => ho (iff.mp hc)⟩

theorem map {f : α → β} (h : Decides reading condition) : Decides (reading.map f) condition := by
  constructor
  · intro hc
    obtain ⟨a, rfl⟩ := h.accepts hc
    exact ⟨f a, rfl⟩
  · intro hc
    obtain ⟨fault, rfl⟩ := h.refuses hc
    exact ⟨fault, rfl⟩

theorem bind {f : α → Except Error β} (h : Decides reading condition)
    (next : ∀ a, Decides (f a) other) : Decides (reading >>= f) (condition ∧ other) := by
  cases reading with
  | ok a =>
    have hc := h.holds rfl
    exact (next a).of_iff ⟨fun ho => ⟨hc, ho⟩, And.right⟩
  | error e =>
    obtain ⟨hc, fault, rfl⟩ := h.exists_fault rfl
    exact of_fault fun both => hc both.1

theorem mapM {f : α → Except Error β} {condition : α → Prop} {xs : List α}
    (each : ∀ x ∈ xs, Decides (f x) (condition x)) :
    Decides (xs.mapM f) (∀ x ∈ xs, condition x) := by
  constructor
  · intro all
    exact exists_mapM_eq_ok_iff.mpr fun x hx => (each x hx).accepts (all x hx)
  · intro some
    cases h : xs.mapM f with
    | ok ys =>
      refine absurd (fun x hx => ?_) some
      obtain ⟨y, hy⟩ := exists_mapM_eq_ok_iff.mp ⟨ys, h⟩ x hx
      exact (each x hx).holds hy
    | error e =>
      obtain ⟨before, x, after, hxs, _, hx⟩ := mapM_eq_error_iff.mp h
      have hm : x ∈ xs := by simp [hxs]
      obtain ⟨_, fault, rfl⟩ := (each x hm).exists_fault hx
      exact ⟨fault, rfl⟩

end Decides

namespace Snapshot

variable {ids : List String} {owner : String}

theorem lookup_decides (id : String) : Decides (lookup ids owner id) (id ∈ ids) := by
  unfold lookup
  split
  next node hn =>
    obtain ⟨hi, he, _⟩ := List.findIdx?_eq_some_iff_getElem.mp hn
    exact .of_ok (eq_of_beq he ▸ List.getElem_mem hi)
  next hn =>
    refine .of_fault fun hm => ?_
    have hne := List.findIdx?_eq_none_iff.mp hn id hm
    simp at hne

theorem lookup?_decides (id : Option String) :
    Decides (lookup? ids owner id) (∀ name ∈ id, name ∈ ids) := by
  cases id with
  | none => exact .of_ok (by simp)
  | some name => exact (lookup_decides name).map.of_iff (by simp)

theorem valueOf_decides (json : Json) : Decides (valueOf ids owner json) (json.ClosedIn ids) := by
  unfold valueOf
  split
  case h_1 => exact .of_ok .null
  case h_2 b => exact .of_ok (.bool b)
  case h_3 n => exact .of_ok (.number n)
  case h_4 t => exact .of_ok (.text t)
  case h_5 id =>
    refine (lookup_decides id).map.of_iff ⟨.reference, fun h => ?_⟩
    cases h with
    | reference hm => exact hm
  case h_6 other =>
    refine .of_fault fun h => ?_
    cases h with
    | reference hm => exact other _ rfl
  case h_7 => exact .of_fault fun h => by cases h

theorem valuesOf_decides (values : Option (List Json)) :
    Decides (valuesOf ids owner values) (∀ list ∈ values, ∀ value ∈ list, value.ClosedIn ids) := by
  cases values with
  | none => exact .of_ok (by simp)
  | some list =>
    have all : Decides (list.mapM (valueOf ids owner)) (∀ value ∈ list, value.ClosedIn ids) :=
      .mapM fun value _ => valueOf_decides value
    exact all.map.of_iff (by simp)

theorem fieldValuesOf_decides (fields : Fields Json) :
    Decides (fieldValuesOf ids owner fields) (∀ entry ∈ fields.entries, entry.2.ClosedIn ids) :=
  Decides.mapM fun entry _ => (valueOf_decides entry.2).map

theorem nodeOf_decides (definition : NodeDefinition) :
    Decides (nodeOf ids owner definition) (definition.ClosedIn ids) := by
  unfold nodeOf
  refine Decides.of_iff
    (.bind (valuesOf_decides definition.items) fun items =>
      .bind (valuesOf_decides definition.children) fun children =>
      .bind (fieldValuesOf_decides definition.members) fun members =>
      .bind (fieldValuesOf_decides definition.properties) fun properties =>
      .bind (fieldValuesOf_decides definition.userData) fun userData =>
      .bind (lookup?_decides definition.parent) fun parent => .of_pure) ⟨?_, ?_⟩
  · rintro ⟨items, children, members, properties, userData, parent, -⟩
    exact ⟨items, children, members, properties, userData, parent⟩
  · rintro ⟨items, children, members, properties, userData, parent⟩
    exact ⟨items, children, members, properties, userData, parent, trivial⟩

theorem nodesOf_decides (document : SnapshotDocument) :
    Decides (nodesOf document)
      (∀ entry ∈ document.nodes.entries, entry.2.ClosedIn document.nodes.names) :=
  .mapM fun entry _ => nodeOf_decides entry.2

theorem ofNodes_decides {document : SnapshotDocument} {nodes : Array SnapshotNode}
    {named : nodes.size = document.nodes.names.toArray.size} :
    Decides (ofNodes document nodes named) ((∀ id ∈ document.application, id ∈ document.nodes.names) ∧
      ∀ id ∈ document.clientDocument, id ∈ document.nodes.names) :=
  Decides.of_iff
    (.bind (lookup?_decides document.application) fun application =>
      .bind (lookup?_decides document.clientDocument) fun clientDocument => .of_pure)
    (by rw [and_true])

/-- A document is loaded if it is closed, and is refused as a snapshot otherwise. -/
theorem ofDocument_decides (document : SnapshotDocument) :
    Decides (ofDocument document) document.Closed := by
  have each := nodesOf_decides document
  unfold ofDocument
  split
  next e read =>
    obtain ⟨some, fault, rfl⟩ := each.exists_fault read
    exact .of_fault fun closed => some closed.nodes
  next nodes read =>
    exact ofNodes_decides.of_iff ⟨fun roots => ⟨each.holds read, roots.1, roots.2⟩,
      fun closed => ⟨closed.application, closed.clientDocument⟩⟩

end Snapshot
end WidgetLocator
