import WidgetLocator.Error
import WidgetLocator.Host
import WidgetLocator.Snapshot.Document

namespace WidgetLocator

/-- The number of a node: its place among the nodes in the order of their names. -/
abbrev NodeId := Nat

structure SnapshotNode where
  className : Option String
  items : Option (List (Value NodeId))
  children : Option (List (Value NodeId))
  members : List (String × Value NodeId)
  properties : List (String × Value NodeId)
  userData : List (String × Value NodeId)
  element : Option String
  enabled : Option EnabledState
  parent : Option NodeId
  executable : Bool
deriving Repr, Inhabited

/-- A loaded snapshot: a graph of numbered nodes, with the registry of their classes. -/
structure Snapshot where
  location : String
  toolkit : Bool
  application : Option NodeId
  clientDocument : Option NodeId
  classes : Option (Table ClassDefinition)
  ids : Array String
  nodes : Array SnapshotNode
  named : nodes.size = ids.size
deriving Repr

namespace Snapshot

/-- The number of a node with a name. -/
def lookup (ids : List String) (owner id : String) : Except Error NodeId :=
  match ids.findIdx? (· == id) with
  | some node => .ok node
  | none => .error (.snapshot (.unknownNode owner id))

/-- The value that a member, an item or a property stands for. -/
def valueOf (ids : List String) (owner : String) : Json → Except Error (Value NodeId)
  | .null => .ok .null
  | .bool b => .ok (.bool b)
  | .number n => .ok (.number n.toBinary64)
  | .text t => .ok (.text t)
  | .object [("$ref", .text id)] => (lookup ids owner id).map .object
  | .object _ => .error (.snapshot (.inlineObject owner))
  | .array _ => .error (.snapshot (.nestedArray owner))

def valuesOf (ids : List String) (owner : String) :
    Option (List Json) → Except Error (Option (List (Value NodeId)))
  | some values => (values.mapM (valueOf ids owner)).map some
  | none => .ok none

def fieldValuesOf (ids : List String) (owner : String) (fields : Fields Json) :
    Except Error (List (String × Value NodeId)) :=
  fields.entries.mapM fun (name, value) => (valueOf ids owner value).map (name, ·)

def lookup? (ids : List String) (owner : String) : Option String → Except Error (Option NodeId)
  | some id => (lookup ids owner id).map some
  | none => .ok none

/-- The node for a definition, with the parent that is written in it. -/
def nodeOf (ids : List String) (id : String) (definition : NodeDefinition) :
    Except Error SnapshotNode := do
  let items ← valuesOf ids id definition.items
  let children ← valuesOf ids id definition.children
  let members ← fieldValuesOf ids id definition.members
  let properties ← fieldValuesOf ids id definition.properties
  let userData ← fieldValuesOf ids id definition.userData
  let parent ← lookup? ids id definition.parent
  return {
    className := definition.className
    items, children, members, properties, userData
    element := definition.element
    enabled := definition.enabled
    parent
    executable := definition.executable }

/-- The objects among the children of the nodes, in the order of the nodes, each with the number of
the node that lists it. -/
def listedChildren (nodes : List SnapshotNode) : List (NodeId × NodeId) :=
  nodes.zipIdx.flatMap fun (node, i) =>
    ((node.children.getD []).filterMap Value.object?).map (·, i)

/-- Gives a node a parent, unless it has one already or would be its own. -/
def adopt (nodes : List SnapshotNode) (child parent : NodeId) : List SnapshotNode :=
  nodes.modify child fun node =>
    if node.parent.isNone && child != parent then { node with parent := some parent } else node

/-- The nodes with the parents that follow from child collections. -/
def inferParents (nodes : List SnapshotNode) : List SnapshotNode :=
  (listedChildren nodes).foldl (fun nodes (child, parent) => adopt nodes child parent) nodes

theorem length_inferParents (nodes : List SnapshotNode) :
    (inferParents nodes).length = nodes.length := by
  have each (listed : List (NodeId × NodeId)) : ∀ nodes : List SnapshotNode,
      (listed.foldl (fun nodes (child, parent) => adopt nodes child parent) nodes).length =
        nodes.length := by
    induction listed with
    | nil => exact fun _ => rfl
    | cons first rest ih =>
      intro nodes
      obtain ⟨child, parent⟩ := first
      rw [List.foldl_cons, ih]
      exact List.length_modify ..
  exact each (listedChildren nodes) nodes

/-- The nodes of a document in the order of their names, with the parents that are written. -/
def nodesOf (document : SnapshotDocument) : Except Error (List SnapshotNode) :=
  document.nodes.entries.mapM fun (id, definition) => nodeOf document.nodes.names id definition

theorem named_of_nodesOf {document : SnapshotDocument} {nodes : List SnapshotNode}
    (read : nodesOf document = .ok nodes) :
    (inferParents nodes).toArray.size = document.nodes.names.toArray.size := by
  have length := length_of_mapM_eq_ok read
  rw [List.size_toArray, List.size_toArray, length_inferParents, length, Table.names, List.length_map]

/-- A snapshot of some nodes, if the roots in its document are there. -/
def ofNodes (document : SnapshotDocument) (nodes : Array SnapshotNode)
    (named : nodes.size = document.nodes.names.toArray.size) : Except Error Snapshot := do
  let ids := document.nodes.names
  let application ← lookup? ids "application" document.application
  let clientDocument ← lookup? ids "clientDocument" document.clientDocument
  return {
    location := document.location.getD "about:snapshot"
    toolkit := document.toolkit.getD true
    application
    clientDocument
    classes := document.classes
    ids := ids.toArray
    nodes
    named }

def ofDocument (document : SnapshotDocument) : Except Error Snapshot :=
  match read : nodesOf document with
  | .error e => .error e
  | .ok nodes => ofNodes document (inferParents nodes).toArray (named_of_nodesOf read)

variable (snapshot : Snapshot)

def size : Nat :=
  snapshot.nodes.size

def node? (id : String) : Option NodeId :=
  snapshot.ids.findIdx? (· == id)

def idOf (node : NodeId) : String :=
  snapshot.ids[node]?.getD ""

def description : String :=
  "snapshot " ++ snapshot.location ++ " (" ++ String.ofList (decimalDigits snapshot.size) ++
    " nodes)"

/-- The first node that an element renders. -/
def nodeForElement? (element : String) : Option NodeId :=
  snapshot.nodes.findIdx? fun node => node.element == some element

def isExecutable (node : NodeId) : Bool :=
  snapshot.nodes[node]?.any (·.executable)

def elementOf (node : NodeId) : Option String :=
  snapshot.nodes[node]?.bind (·.element)

def classOf (node : NodeId) : Option String :=
  snapshot.nodes[node]?.bind (·.className)

def display (node : NodeId) : String :=
  match snapshot.classOf node with
  | some c => c ++ "[" ++ snapshot.idOf node ++ "]"
  | none => plainObjectText

def graph : WidgetGraph NodeId where
  items node := snapshot.nodes[node]?.bind (·.items)
  children node := snapshot.nodes[node]?.bind (·.children)
  members node := (snapshot.nodes[node]?.map (·.members)).getD []
  userData node key := (snapshot.nodes[node]?.bind fun n => field? n.userData key).getD .undefined
  enabledState node := snapshot.nodes[node]?.bind (·.enabled)
  parent node := snapshot.nodes[node]?.bind (·.parent)
  display := snapshot.display

/-- The same nodes with nothing but their members. -/
def bareGraph : WidgetGraph NodeId where
  members := snapshot.graph.members

/-- The classes from a name upwards, as far as they are known and none of them comes again. -/
def classChainFrom (classes : Table ClassDefinition) :
    Nat → List String → String → List (String × ClassDefinition)
  | 0, _, _ => []
  | fuel + 1, seen, name =>
    if seen.contains name then []
    else
      match classes.get? name with
      | none => []
      | some definition =>
        (name, definition) ::
          match definition.superclass with
          | some superclass => classChainFrom classes fuel (name :: seen) superclass
          | none => []

/-- A class and the classes above it. -/
def classChain (name : String) : List (String × ClassDefinition) :=
  match snapshot.classes with
  | some classes => classChainFrom classes (classes.entries.length + 1) [] name
  | none => []

def classesOf (node : NodeId) : List (String × ClassDefinition) :=
  match snapshot.classOf node with
  | some name => snapshot.classChain name
  | none => []

/-- What the snapshot knows about classes. A snapshot without classes knows none. -/
def typeRegistry : TypeRegistry NodeId where
  classByName name :=
    if snapshot.classes.any (·.contains name) then some ⟨name⟩ else none
  isInstance node c := (snapshot.classesOf node).any fun (name, _) => name == c.name
  hasProperty node key :=
    (snapshot.classesOf node).any fun (_, definition) => definition.properties.contains key
  property node key := (snapshot.nodes[node]?.bind fun n => field? n.properties key).getD .null

def registry? : Option (TypeRegistry NodeId) :=
  if snapshot.classes.isSome then some snapshot.typeRegistry else none

/-- The element of the document itself. -/
def documentElement : String :=
  "document"

/-- The element for a native locator: that of the document, or one that renders a node. -/
def locateNative (locator : String) : Except Error (Option String) :=
  if locator = "dom=document" then .ok (some documentElement)
  else
    match dropLeading "id=".toList locator.toList with
    | some id =>
      let element := String.ofList id
      .ok ((snapshot.nodeForElement? element).map fun _ => element)
    | none => .error (.notImplemented (.strategy locator))

/-- The snapshot as a window. It has no document for XPaths. -/
def window : HostWindow NodeId String where
  graph := snapshot.graph
  nodes := snapshot.size
  location := snapshot.location
  toolkit := snapshot.toolkit
  application := snapshot.application
  clientDocument := snapshot.clientDocument
  registry := snapshot.registry?
  elementOf := snapshot.elementOf
  locateXPath xpath _ := .error (.notImplemented (.xpath xpath))
  locateNative := snapshot.locateNative

end Snapshot

end WidgetLocator
