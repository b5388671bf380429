import WidgetLocator.Proofs.Search.Loaded
import WidgetLocator.Proofs.Text.Bytes

namespace WidgetLocator

/-- A node lists another one among its children, by a reference to its name. -/
def SnapshotDocument.Lists (document : SnapshotDocument) (container id : String) : Prop :=
  ∃ definition, (container, definition) ∈ document.nodes.entries ∧
    ∃ children ∈ definition.children, .object [("$ref", .text id)] ∈ children

/-- The name with the smallest bytes among those of the other nodes that list a node. -/
structure SnapshotDocument.FirstContainer (document : SnapshotDocument) (id container : String) :
    Prop where
  lists : document.Lists container id
  other : container ≠ id
  first : ∀ another, document.Lists another id → another ≠ id → utf8 container ≤ utf8 another

namespace Snapshot

section Numbers

variable {document : SnapshotDocument} {i j : NodeId} {a b : String}

theorem NumberedBy.unique (hi : NumberedBy document.nodes.names i a)
    (hj : NumberedBy document.nodes.names j a) : i = j := by
  obtain ⟨hi', hi⟩ := List.getElem?_eq_some_iff.mp hi
  obtain ⟨hj', hj⟩ := List.getElem?_eq_some_iff.mp hj
  exact (List.Nodup.getElem_inj_iff (names_nodup document)).mp (hi.trans hj.symm)

theorem NumberedBy.ne_iff (hi : NumberedBy document.nodes.names i a)
    (hj : NumberedBy document.nodes.names j b) : i ≠ j ↔ a ≠ b := by
  refine not_congr ⟨?_, ?_⟩
  · rintro rfl
    exact Option.some.inj (hi.symm.trans hj)
  · rintro rfl
    exact hi.unique hj

theorem NumberedBy.lt (hi : NumberedBy document.nodes.names i a)
    (hj : NumberedBy document.nodes.names j b) (lt : i < j) : a < b := by
  have sorted : document.nodes.names.Pairwise (· < ·) :=
    List.pairwise_map.mpr document.nodes.sorted
  obtain ⟨hi', rfl⟩ := List.getElem?_eq_some_iff.mp hi
  obtain ⟨hj', rfl⟩ := List.getElem?_eq_some_iff.mp hj
  exact List.pairwise_iff_getElem.mp sorted i j hi' hj' lt

theorem NumberedBy.le_iff (hi : NumberedBy document.nodes.names i a)
    (hj : NumberedBy document.nodes.names j b) : i ≤ j ↔ a ≤ b := by
  constructor
  · intro le
    rcases Nat.lt_or_eq_of_le le with lt | rfl
    · exact Std.le_of_lt (hi.lt hj lt)
    · have same : a = b := Option.some.inj (hi.symm.trans hj)
      exact Std.le_of_eq same
  · intro le
    by_contra greater
    exact Std.not_lt.mpr le (hj.lt hi (Nat.lt_of_not_le greater))

end Numbers

section Listed

variable {document : SnapshotDocument} {nodes : List SnapshotNode} {parent child : NodeId}
  {id container : String}

theorem object_mem_of_reference_mem {definition : NodeDefinition} {node : SnapshotNode}
    (h : definition.Describes (NumberedBy document.nodes.names) node)
    (named : NumberedBy document.nodes.names child id)
    (hc : ∃ children ∈ definition.children, .object [("$ref", .text id)] ∈ children) :
    .object child ∈ node.children.getD [] := by
  obtain ⟨written, hw, reference⟩ := hc
  have children := h.children
  rw [Option.mem_def.mp hw] at children
  generalize node.children = read at children
  cases children with
  | some related =>
    obtain ⟨value, hv, stands⟩ := exists_of_mem_left related reference
    cases stands with
    | reference named' => exact named'.unique named ▸ hv

variable (related : List.Forall₂
  (fun entry node => nodeOf document.nodes.names entry.1 entry.2 = .ok node)
  document.nodes.entries nodes)

include related

theorem lists_iff (named : NumberedBy document.nodes.names child id)
    (named' : NumberedBy document.nodes.names parent container) :
    Lists nodes parent child ↔ document.Lists container id := by
  obtain ⟨definition, hd⟩ := numberedBy_iff.mp named'
  obtain ⟨node, hn, read⟩ := exists_of_getElem?_left related hd
  have describes := (nodeOf_describes read).1
  constructor
  · rintro ⟨node', hn', hc⟩
    cases hn.symm.trans hn'
    obtain ⟨id', hid, reference⟩ := reference_mem_of_object_mem describes hc
    cases hid.symm.trans named
    exact ⟨definition, List.mem_of_getElem? hd, reference⟩
  · rintro ⟨definition', hd', reference⟩
    obtain ⟨place, hp⟩ := List.mem_iff_getElem?.mp hd'
    have same : place = parent := (numberedBy_iff.mpr ⟨definition', hp⟩).unique named'
    rw [same, hd] at hp
    cases hp
    exact ⟨node, hn, object_mem_of_reference_mem describes named reference⟩

theorem exists_numbered_of_lists (lists : Lists nodes parent child) :
    ∃ container, NumberedBy document.nodes.names parent container := by
  obtain ⟨node, hn, _⟩ := lists
  obtain ⟨entry, he, _⟩ := exists_of_getElem?_right related hn
  exact ⟨entry.1, numberedBy_iff.mpr ⟨entry.2, he⟩⟩

omit related in
theorem exists_number_of_lists (lists : document.Lists container id) :
    ∃ parent, NumberedBy document.nodes.names parent container := by
  obtain ⟨definition, hd, _⟩ := lists
  obtain ⟨parent, hp⟩ := List.mem_iff_getElem?.mp hd
  exact ⟨parent, numberedBy_iff.mpr ⟨definition, hp⟩⟩

theorem inferredParent_eq_some_iff_firstContainer (named : NumberedBy document.nodes.names child id) :
    inferredParent nodes child = some parent ↔
      ∃ container, NumberedBy document.nodes.names parent container ∧
        document.FirstContainer id container := by
  rw [inferredParent_eq_some_iff]
  constructor
  · rintro ⟨apart, lists, first⟩
    obtain ⟨container, hp⟩ := exists_numbered_of_lists related lists
    refine ⟨container, hp, (lists_iff related named hp).mp lists, (hp.ne_iff named).mp apart, ?_⟩
    intro another lists' apart'
    obtain ⟨other, ho⟩ := exists_number_of_lists lists'
    have le := first other ((ho.ne_iff named).mpr apart') ((lists_iff related named ho).mpr lists')
    exact utf8_le_iff.mpr ((hp.le_iff ho).mp le)
  · rintro ⟨container, hp, lists, apart, first⟩
    refine ⟨(hp.ne_iff named).mpr apart, (lists_iff related named hp).mpr lists, ?_⟩
    intro other apart' lists'
    obtain ⟨another, ho⟩ := exists_numbered_of_lists related lists'
    have le := first another ((lists_iff related named ho).mp lists') ((ho.ne_iff named).mp apart')
    exact (hp.le_iff ho).mpr (utf8_le_iff.mp le)

theorem inferredParent_eq_none_iff_of_named (named : NumberedBy document.nodes.names child id) :
    inferredParent nodes child = none ↔ ∀ container, document.Lists container id → container = id := by
  rw [inferredParent_eq_none_iff]
  constructor
  · intro none container lists
    by_contra apart
    obtain ⟨parent, hp⟩ := exists_number_of_lists lists
    exact none parent ((hp.ne_iff named).mpr apart) ((lists_iff related named hp).mpr lists)
  · intro own other apart lists
    obtain ⟨container, hc⟩ := exists_numbered_of_lists related lists
    exact (hc.ne_iff named).mp apart (own container ((lists_iff related named hc).mp lists))

end Listed

/-- A node of a loaded snapshot has the parent that is written for it, and otherwise the one among
the other nodes that list it whose name comes first. But for that it is as it was read. -/
theorem parent_written_or_first {document : SnapshotDocument} {snapshot : Snapshot}
    (loaded : ofDocument document = .ok snapshot) {id : String} {definition : NodeDefinition}
    (he : (id, definition) ∈ document.nodes.entries) :
    ∃ node, snapshot.node? id = some node ∧
      (∀ name ∈ definition.parent,
        ∃ parent, snapshot.node? name = some parent ∧ snapshot.graph.parent node = some parent) ∧
      (definition.parent = none →
        (∀ parent, snapshot.graph.parent node = some parent ↔
          ∃ container, snapshot.node? container = some parent ∧
            document.FirstContainer id container) ∧
        (snapshot.graph.parent node = none ↔
          ∀ container, document.Lists container id → container = id)) ∧
      ∃ read, nodeOf document.nodes.names id definition = .ok read ∧
        snapshot.nodes[node]? = some { read with parent := snapshot.graph.parent node } := by
  have numbered (node : NodeId) (id : String) :
      snapshot.node? id = some node ↔ NumberedBy document.nodes.names node id :=
    (node?_eq_some_iff loaded).trans (names_iff_numberedBy loaded)
  obtain ⟨node, hn⟩ : ∃ node : NodeId, document.nodes.entries[node]? = some (id, definition) :=
    List.mem_iff_getElem?.mp he
  have named : NumberedBy document.nodes.names node id := numberedBy_iff.mpr ⟨definition, hn⟩
  obtain ⟨nodes, related, _, all⟩ := exists_nodes_of_ofDocument loaded
  obtain ⟨read, hr, made⟩ := exists_of_getElem?_left related hn
  obtain ⟨describes, unwritten⟩ := nodeOf_describes made
  have stored : snapshot.nodes[node]? =
      some { read with parent := read.parent <|> inferredParent nodes node } := by
    rw [all, List.getElem?_toArray, getElem?_inferParents, hr]
    rfl
  have parent : snapshot.graph.parent node = (read.parent <|> inferredParent nodes node) := by
    simp only [graph, stored, Option.bind_some]
  refine ⟨node, (numbered node id).mpr named, ?_⟩
  simp only [numbered, parent]
  refine ⟨?_, ?_, read, made, stored⟩
  · intro name hname
    obtain ⟨parent, hp, named'⟩ := describes.parent name hname
    exact ⟨parent, named', by rw [Option.mem_def.mp hp]; rfl⟩
  · intro none
    rw [unwritten none]
    exact ⟨fun _ => inferredParent_eq_some_iff_firstContainer related named,
      inferredParent_eq_none_iff_of_named related named⟩

/-- A node that lists itself, one that is listed by two nodes, and one with a parent of its own. -/
def listedAgain : SnapshotDocument where
  location := none
  toolkit := none
  application := none
  clientDocument := none
  classes := none
  nodes := ⟨[("Z", parentOf ["c", "d", "c"]), ("a", parentOf ["a", "c"]), ("c", parentOf []),
    ("d", { parentOf [] with parent := some "c" })], by decide⟩

theorem parent_written_or_first_listedAgain :
    ∃ snapshot, ofDocument listedAgain = .ok snapshot ∧
      (snapshot.node? "a").map snapshot.graph.parent = some none ∧
      (snapshot.node? "c").map snapshot.graph.parent = some (snapshot.node? "Z") ∧
      (snapshot.node? "d").map snapshot.graph.parent = some (snapshot.node? "c") := by
  obtain ⟨snapshot, loaded⟩ : ∃ snapshot, ofDocument listedAgain = .ok snapshot := ⟨_, rfl⟩
  have lists (container id : String) : listedAgain.Lists container id ↔
      container = "Z" ∧ (id = "c" ∨ id = "d") ∨ container = "a" ∧ (id = "a" ∨ id = "c") := by
    have twice : (id = "c" ∨ id = "d" ∨ id = "c") ↔ id = "c" ∨ id = "d" := by grind
    simp [SnapshotDocument.Lists, listedAgain, parentOf, or_and_right, exists_or, and_assoc, twice]
  have entries : listedAgain.nodes.entries = [("Z", parentOf ["c", "d", "c"]),
      ("a", parentOf ["a", "c"]), ("c", parentOf []), ("d", { parentOf [] with parent := some "c" })] :=
    rfl
  have ofZ : ("Z", parentOf ["c", "d", "c"]) ∈ listedAgain.nodes.entries := by simp [entries]
  have ofA : ("a", parentOf ["a", "c"]) ∈ listedAgain.nodes.entries := by simp [entries]
  have ofC : ("c", parentOf []) ∈ listedAgain.nodes.entries := by simp [entries]
  have ofD : ("d", { parentOf [] with parent := some "c" }) ∈ listedAgain.nodes.entries := by
    simp [entries]
  obtain ⟨a, ha, _, inferred, _⟩ := parent_written_or_first loaded ofA
  obtain ⟨c, hc, _, inferred', _⟩ := parent_written_or_first loaded ofC
  obtain ⟨d, hd, written, _⟩ := parent_written_or_first loaded ofD
  refine ⟨snapshot, loaded, ?_, ?_, ?_⟩
  · have none := (inferred rfl).2.mpr (by simp [lists])
    rw [ha, Option.map_some, none]
  · have first : listedAgain.FirstContainer "c" "Z" := by
      refine ⟨(lists _ _).mpr (by simp), by decide, ?_⟩
      intro another h _
      rcases (lists _ _).mp h with ⟨rfl, _⟩ | ⟨rfl, _⟩ <;> exact utf8_le_iff.mpr (by decide)
    obtain ⟨z, hz, _⟩ := parent_written_or_first loaded ofZ
    have given := ((inferred' rfl).1 z).mpr ⟨"Z", hz, first⟩
    rw [hc, hz, Option.map_some, given]
  · obtain ⟨parent, hp, given⟩ := written "c" rfl
    rw [hd, hp, Option.map_some, given]

end Snapshot
end WidgetLocator
