import WidgetLocator.Graph
import WidgetLocator.Source

namespace WidgetLocator

structure ClassDefinition where
  superclass : Option String
  properties : List String
deriving Repr, Inhabited

structure NodeDefinition where
  className : Option String
  items : Option (List Json)
  children : Option (List Json)
  members : Fields Json
  properties : Fields Json
  userData : Fields Json
  /-- The element that renders the node. -/
  element : Option String
  enabled : Option EnabledState
  parent : Option String
  executable : Bool
deriving Repr, Inhabited

structure SnapshotDocument where
  location : Option String
  /-- Whether the toolkit is there, which it is by default. -/
  toolkit : Option Bool
  application : Option String
  clientDocument : Option String
  /-- The classes, if the snapshot has a registry of them. -/
  classes : Option (Table ClassDefinition)
  nodes : Table NodeDefinition
deriving Repr, Inhabited

section Reading

variable {m : Type → Type} [Monad m] {β : Type} (source : Source m β)

def EnabledState.read (value : β) : m EnabledState := do
  match EnabledState.ofName? (← source.choice ["enabled", "disabled", "inherit"] value) with
  | some state => return state
  | none => source.fail

def ClassDefinition.read (value : β) : m ClassDefinition := do
  let fields ← source.fields ["extends", "properties"] value
  return {
    superclass := ← fieldOr none fields "extends" (source.optional source.text)
    properties := ← fieldOr [] fields "properties" (source.list source.text) }

def NodeDefinition.read (value : β) : m NodeDefinition := do
  let fields ← source.fields ["class", "items", "children", "members", "properties", "userData",
    "element", "enabled", "parent", "executable"] value
  return {
    className := ← fieldOr none fields "class" (source.optional source.text)
    items := ← fieldOr none fields "items" (source.optional (source.list source.any))
    children := ← fieldOr none fields "children" (source.optional (source.list source.any))
    members := ← fieldOr .empty fields "members" (source.ordered source.any)
    properties := ← fieldOr .empty fields "properties" (source.ordered source.any)
    userData := ← fieldOr .empty fields "userData" (source.ordered source.any)
    element := ← fieldOr none fields "element" (source.optional source.text)
    enabled := ← fieldOr none fields "enabled" (source.optional (EnabledState.read source))
    parent := ← fieldOr none fields "parent" (source.optional source.text)
    executable := ← fieldOr false fields "executable" source.flag }

def SnapshotDocument.read (value : β) : m SnapshotDocument := do
  let fields ← source.fields
    ["location", "toolkit", "application", "clientDocument", "classes", "nodes"] value
  return {
    location := ← fieldOr none fields "location" (source.optional source.text)
    toolkit := ← fieldOr none fields "toolkit" (source.optional source.flag)
    application := ← fieldOr none fields "application" (source.optional source.text)
    clientDocument := ← fieldOr none fields "clientDocument" (source.optional source.text)
    classes := ← fieldOr none fields "classes"
      (source.optional (source.table (ClassDefinition.read source)))
    nodes := ← fieldOr .empty fields "nodes" (source.table (NodeDefinition.read source)) }

end Reading

/-- Reads a snapshot from any source. -/
def SnapshotDocument.reader : Reader SnapshotDocument :=
  ⟨fun source value => SnapshotDocument.read source value⟩

/-- A value that may be missing, which is then null. -/
def optionalJson {α : Type} (toJson : α → Json) : Option α → Json
  | some value => toJson value
  | none => .null

def tableJson {α : Type} (toJson : α → Json) (table : Table α) : Json :=
  .object (table.entries.map fun (name, value) => (name, toJson value))

namespace ClassDefinition

def toJson (definition : ClassDefinition) : Json :=
  .object [("extends", optionalJson .text definition.superclass),
    ("properties", .array (definition.properties.map .text))]

end ClassDefinition

namespace NodeDefinition

def toJson (definition : NodeDefinition) : Json :=
  .object [("class", optionalJson .text definition.className),
    ("items", optionalJson .array definition.items),
    ("children", optionalJson .array definition.children),
    ("members", .object definition.members.entries),
    ("properties", .object definition.properties.entries),
    ("userData", .object definition.userData.entries),
    ("element", optionalJson .text definition.element),
    ("enabled", optionalJson (fun state => .text state.name) definition.enabled),
    ("parent", optionalJson .text definition.parent),
    ("executable", .bool definition.executable)]

end NodeDefinition

namespace SnapshotDocument

def toJson (document : SnapshotDocument) : Json :=
  .object [("location", optionalJson .text document.location),
    ("toolkit", optionalJson .bool document.toolkit),
    ("application", optionalJson .text document.application),
    ("clientDocument", optionalJson .text document.clientDocument),
    ("classes", optionalJson (tableJson ClassDefinition.toJson) document.classes),
    ("nodes", tableJson NodeDefinition.toJson document.nodes)]

end SnapshotDocument

end WidgetLocator
