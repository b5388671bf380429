import WidgetLocator.Snapshot
import WidgetLocator.Source.File

namespace WidgetLocator

section Written

variable {α β : Type} {read : β → Option α} {write : α → β}

/-- What is written for a value is read as that value. -/
def ReadsBack (read : β → Option α) (write : α → β) : Prop :=
  ∀ value, read (write value) = some value

theorem bind_read {x : Option α} {a : α} {f : α → Option β} {b : β} (hx : x = some a)
    (hf : f a = some b) : x >>= f = some b :=
  Option.bind_eq_some_iff.mpr ⟨a, hx, hf⟩

theorem fieldOr_written {fields : List (String × β)} {name : String} {written : β} {value : α}
    {missing : α} (there : field? fields name = some written) (h : read written = some value) :
    fieldOr missing fields name read = some value := by
  unfold fieldOr
  rw [there]
  exact h

namespace ReadsBack

theorem mapM (h : ReadsBack read write) (values : List α) :
    (values.map write).mapM read = some values := by
  induction values with
  | nil => rfl
  | cons value values ih =>
    rw [List.map_cons, List.mapM_cons]
    exact bind_read (h value) (bind_read ih rfl)

theorem text : ReadsBack Json.source.text .text :=
  fun _ => rfl

theorem flag : ReadsBack Json.source.flag .bool :=
  fun _ => rfl

theorem state :
    ReadsBack (EnabledState.read Json.source) fun state => .text state.name := by
  intro state
  cases state <;> rfl

variable {read : Json → Option α} {write : α → Json}

/-- A value that is there must not be written as null. -/
theorem optional (h : ReadsBack read write) (present : ∀ value, write value ≠ .null) :
    ReadsBack (Json.source.optional read) (optionalJson write) := by
  intro value
  cases value with
  | none => rfl
  | some value =>
    have there : Json.source.present (write value) = some (some (write value)) := by
      cases hw : write value with
      | null => exact absurd hw (present value)
      | bool | number | text | array | object => rfl
    have again : some <$> read (write value) = some (some value) := by
      rw [h value]
      rfl
    exact bind_read there again

theorem list (h : ReadsBack read write) :
    ReadsBack (Json.source.list read) fun values => .array (values.map write) :=
  fun values => bind_read rfl (h.mapM values)

theorem named (h : ReadsBack read write) (entries : List (String × α)) :
    Json.source.named read (.object (entries.map fun entry => (entry.1, write entry.2))) =
      some entries := by
  have entry : ReadsBack (fun entry : String × Json => do return (entry.1, ← read entry.2))
      fun entry : String × α => (entry.1, write entry.2) :=
    fun entry => bind_read (h entry.2) rfl
  exact bind_read rfl (entry.mapM entries)

theorem table (h : ReadsBack read write) :
    ReadsBack (Json.source.table read) (tableJson write) := by
  intro table
  have entries : Json.source.named read (tableJson write table) = some table.entries :=
    h.named table.entries
  unfold Source.table
  rw [entries]
  exact congrArg some table.ofList_entries

theorem any : ReadsBack Json.source.any id :=
  fun _ => rfl

theorem values : ReadsBack (Json.source.list Json.source.any) .array := by
  intro values
  have same : values.map id = values := List.map_id values
  have read := any.list values
  dsimp only at read
  rwa [same] at read

theorem fields :
    ReadsBack (Json.source.ordered Json.source.any) fun fields => .object fields.entries := by
  intro fields
  have same : fields.entries.map (fun entry => (entry.1, id entry.2)) = fields.entries :=
    List.map_id _
  have entries := any.named fields.entries
  rw [same] at entries
  unfold Source.ordered
  rw [entries]
  exact congrArg some fields.ofList_entries

end ReadsBack

end Written

theorem ReadsBack.classDefinition :
    ReadsBack (ClassDefinition.read Json.source) ClassDefinition.toJson := by
  intro definition
  refine bind_read rfl ?_
  refine bind_read (fieldOr_written rfl (ReadsBack.text.optional nofun definition.superclass)) ?_
  refine bind_read (fieldOr_written rfl (ReadsBack.text.list definition.properties)) ?_
  rfl

theorem ReadsBack.nodeDefinition :
    ReadsBack (NodeDefinition.read Json.source) NodeDefinition.toJson := by
  intro definition
  have text := ReadsBack.text.optional nofun
  have values := ReadsBack.values.optional nofun
  have state := ReadsBack.state.optional nofun
  refine bind_read rfl ?_
  refine bind_read (fieldOr_written rfl (text definition.className)) ?_
  refine bind_read (fieldOr_written rfl (values definition.items)) ?_
  refine bind_read (fieldOr_written rfl (values definition.children)) ?_
  refine bind_read (fieldOr_written rfl (ReadsBack.fields definition.members)) ?_
  refine bind_read (fieldOr_written rfl (ReadsBack.fields definition.properties)) ?_
  refine bind_read (fieldOr_written rfl (ReadsBack.fields definition.userData)) ?_
  refine bind_read (fieldOr_written rfl (text definition.element)) ?_
  refine bind_read (fieldOr_written rfl (state definition.enabled)) ?_
  refine bind_read (fieldOr_written rfl (text definition.parent)) ?_
  refine bind_read (fieldOr_written rfl (ReadsBack.flag definition.executable)) ?_
  rfl

theorem ReadsBack.document :
    ReadsBack (SnapshotDocument.read Json.source) SnapshotDocument.toJson := by
  intro document
  have text := ReadsBack.text.optional nofun
  have flag := ReadsBack.flag.optional nofun
  have classes := ReadsBack.classDefinition.table.optional nofun
  have nodes := ReadsBack.nodeDefinition.table
  refine bind_read rfl ?_
  refine bind_read (fieldOr_written rfl (text document.location)) ?_
  refine bind_read (fieldOr_written rfl (flag document.toolkit)) ?_
  refine bind_read (fieldOr_written rfl (text document.application)) ?_
  refine bind_read (fieldOr_written rfl (text document.clientDocument)) ?_
  refine bind_read (fieldOr_written rfl (classes document.classes)) ?_
  refine bind_read (fieldOr_written rfl (nodes document.nodes)) ?_
  rfl

/-- A written document is read as the same document, with all of its entries in their order, and so
the same snapshot is loaded from it, or it is refused for the same reason. Documents are never
written alike. -/
theorem SnapshotDocument.written_read_back :
    (∀ document, reader.ofValue document.toJson = .ok document ∧
      (reader.ofValue document.toJson >>= Snapshot.ofDocument) = Snapshot.ofDocument document) ∧
    Function.Injective SnapshotDocument.toJson := by
  have again (document : SnapshotDocument) : reader.ofValue document.toJson = .ok document := by
    have read : reader.ofJson? document.toJson = some document := ReadsBack.document document
    unfold Reader.ofValue
    rw [read]
  refine ⟨fun document => ⟨again document, ?_⟩, ?_⟩
  · rw [again document]
    rfl
  · intro first second same
    have read := again first
    rw [same, again second] at read
    exact (Except.ok.inj read).symm

end WidgetLocator
