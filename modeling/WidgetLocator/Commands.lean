import WidgetLocator.Event.Host
import WidgetLocator.Host.Dispatch

namespace WidgetLocator

/-- The variable that takes the measured viewport. -/
def viewportVariable : String :=
  "ViewportStr"

/-- The locator of the document. -/
def documentLocator : String :=
  "dom=document"

namespace Dispatcher

variable {ν ε : Type} [DecidableEq ν] (dispatcher : Dispatcher ν ε)

/-- Whether the first widget that decides it, going from one to its parent, is enabled. A widget
that was visited before is not visited again, and at most `fuel` widgets are. -/
def decideEnabled (locator : String) : Nat → List ν → ν → Except Error Bool
  | 0, _, _ => .error .endless
  | fuel + 1, visited, node =>
    match dispatcher.window.graph.enabledState node with
    | some .enabled => .ok true
    | some .disabled => .ok false
    | _ =>
      match dispatcher.window.graph.parent node with
      | some parent =>
        if (node :: visited).contains parent then .error (.notFound (.decision locator))
        else decideEnabled locator fuel (node :: visited) parent
      | none => .error (.notFound (.decision locator))

/-- The locator of the widget whose state is asked for. Only tags are good for that. -/
def enabledTarget (locator : String) : Except Error QxLocator :=
  match Locator.parse locator with
  | .error e => .error e
  | .ok (.qx (.tag path)) => .ok (.tagObject path)
  | .ok (.qx (.tagXPath _ _)) => .error (.notImplemented .enabledOfXPath)
  | .ok (.qx _) => .error (.illFormed (.unknownFamily locator))
  | .ok (.native _) => .error (.illFormed (.notOfFamily locator))

/-- Whether the widget of a locator is enabled. -/
def isEnabled (locator : String) : Except Error Bool :=
  match enabledTarget locator with
  | .error e => .error e
  | .ok target =>
    match dispatcher.locateObject target with
    | .error e => .error e
    | .ok none => .error (.notFound (.widget locator))
    | .ok (some node) => dispatcher.decideEnabled locator (dispatcher.window.nodes + 1) [] node

end Dispatcher

/-- A host and the settings for commands. -/
structure Commands (σ ν ε : Type) where
  host : EventHost σ ν ε
  configuration : Configuration

namespace Commands

variable {σ ν ε : Type} [DecidableEq ν] (commands : Commands σ ν ε)

def dispatcher : Dispatcher ν ε :=
  ⟨commands.host.window, commands.configuration⟩

/-- The element of a locator, which has to lead to one. -/
def element (locator : String) : Except Error ε :=
  match commands.dispatcher.findElement locator with
  | .ok (some found) => .ok found
  | .ok none => .error (.notFound (.element locator))
  | .error e => .error e

def findElement (locator : String) : SessionM σ ε :=
  match commands.element locator with
  | .ok found => pure found
  | .error e => throw e

/-- Clicks the element of a locator. -/
def click (locator parameters : String) : SessionM σ Unit := do
  let element ← commands.findElement locator
  commands.host.click element (.parse parameters)

/-- Clicks the element of a locator at its place in the client area. -/
def clickAt (locator parameters : String) : SessionM σ Unit := do
  let element ← commands.findElement locator
  let (x, y) ← commands.host.clientPosition element
  commands.host.click element
    (((MouseParameters.parse parameters).withNumber "clientX" x).withNumber "clientY" y)

/-- Executes the widget of a locator, if it can be executed. -/
def execute (locator : String) : SessionM σ Unit := do
  let element ← commands.findElement locator
  let _ ← commands.host.execute element

def isEnabled (locator : String) : SessionM σ Bool :=
  match commands.dispatcher.isEnabled locator with
  | .ok enabled => pure enabled
  | .error e => throw e

/-- Notes the geometry that follows from a click. -/
def noteViewport : ClickListener := fun click notes =>
  { notes with
    stored := notes.stored.insert viewportVariable (ViewportGeometry.ofClick click).text }

/-- Measures the viewport at the next click on the document, and makes that click unless it is left
to the user. -/
def getViewport : SessionM σ Unit := do
  let document ← commands.findElement documentLocator
  modify fun s =>
    { s with notes := { s.notes with stored := s.notes.stored.erase viewportVariable } }
  commands.host.listen document noteViewport
  if commands.configuration.viewportByHand then pure ()
  else commands.clickAt documentLocator "clientX=0,clientY=0"

end Commands

end WidgetLocator
