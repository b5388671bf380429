import WidgetLocator.Configuration
import WidgetLocator.Graph.Resolve
import WidgetLocator.Graph.Tags
import WidgetLocator.Host
import WidgetLocator.Locator

namespace WidgetLocator

/-- What a locator leads to. -/
inductive Located (ν ε : Type) where
  | element (element : ε)
  | object (node : ν)
deriving DecidableEq, Repr

/-- A window and the settings for its locators. -/
structure Dispatcher (ν ε : Type) where
  window : HostWindow ν ε
  configuration : Configuration

namespace Dispatcher

variable {ν ε : Type} (dispatcher : Dispatcher ν ε)

/-- The widget for a tag path; none without toolkit or client document. -/
def findTagged (path : String) : Except Error (Option ν) :=
  let window := dispatcher.window
  if window.toolkit then
    match window.clientRoot with
    | some root => window.graph.findTagPath window.nodes root path
    | none => .ok none
  else .ok none

/-- The node where a hierarchy path starts. -/
def hierarchyStart : HierarchyRoot → Option ν
  | .application => dispatcher.window.application
  | .clientDocument => dispatcher.window.clientRoot

/-- How paths are resolved in the window. -/
def pathSearch : PathSearch ν :=
  ⟨dispatcher.window.graph, dispatcher.window.registry, dispatcher.configuration.cycleGuard⟩

/-- The widget at a hierarchy path; none without toolkit or root, or if the path does not lead to
a widget. -/
def findInHierarchy [DecidableEq ν] (root : HierarchyRoot) (path : Path) :
    Except Error (Option ν) :=
  if dispatcher.window.toolkit then
    match dispatcher.hierarchyStart root with
    | some start =>
      match dispatcher.pathSearch.resolve dispatcher.window.nodes start path with
      | .ok found => .ok found
      | .error (.unresolved _) => .ok none
      | .error (.fatal e) => .error e
    | none => .ok none
  else .ok none

/-- The element of a widget that was found. -/
def elementOf? (node : Option ν) : Option ε :=
  node.bind dispatcher.window.elementOf

/-- What a locator leads to. -/
def locate [DecidableEq ν] : QxLocator → Except Error (Option (Located ν ε))
  | .tag path =>
    (dispatcher.findTagged path).map fun node => (dispatcher.elementOf? node).map .element
  | .tagObject path => (dispatcher.findTagged path).map (·.map .object)
  | .tagXPath path xpath =>
    match dispatcher.findTagged path with
    | .error e => .error e
    | .ok node =>
      match dispatcher.elementOf? node with
      | some context =>
        (dispatcher.window.locateXPath (dispatcher.configuration.xpathLead ++ xpath) context).map
          (·.map .element)
      | none => .ok none
  | .hierarchy root path =>
    (dispatcher.findInHierarchy root path).map fun node =>
      (dispatcher.elementOf? node).map .element

/-- The widget that a locator leads to. -/
def locateObject [DecidableEq ν] (locator : QxLocator) : Except Error (Option ν) :=
  match locator with
  | .tag path => dispatcher.findTagged path
  | .tagObject path => dispatcher.findTagged path
  | .hierarchy root path => dispatcher.findInHierarchy root path
  | .tagXPath _ _ => .error (.notImplemented (.widgetOfXPath locator.text))

/-- The element that the text of a locator leads to. -/
def findElement [DecidableEq ν] (text : String) : Except Error (Option ε) :=
  match Locator.parse text with
  | .error e => .error e
  | .ok (.native locator) => dispatcher.window.locateNative locator
  | .ok (.qx locator) =>
    (dispatcher.locate locator).map fun
      | some (.element element) => some element
      | some (.object node) => dispatcher.window.elementOf node
      | none => none

end Dispatcher

end WidgetLocator
