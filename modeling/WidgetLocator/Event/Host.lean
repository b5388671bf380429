import WidgetLocator.Host
import WidgetLocator.Viewport

namespace WidgetLocator

/-- What has been noted: variables, and the clicks that named listeners have seen. -/
structure Notes where
  stored : Table String
  clicks : List (String × ClickObservation)
deriving DecidableEq, Repr, Inhabited

/-- What is done with the notes when a click is seen. -/
abbrev ClickListener := ClickObservation → Notes → Notes

/-- A host in some state, and the notes. -/
structure Session (σ : Type) where
  host : σ
  notes : Notes

/-- Calls that may change a session and may be rejected; what was changed before stays. -/
abbrev SessionM (σ : Type) := ExceptT Error (StateM (Session σ))

/-- A host with states, nodes and elements of some types. -/
structure EventHost (σ ν ε : Type) where
  window : HostWindow ν ε
  model : EventModel
  dispatch : ε → MouseEvent → SessionM σ Unit
  /-- Calls the handler with a name. -/
  fire : ε → String → MouseEvent → SessionM σ Unit
  focus : ε → SessionM σ Unit
  /-- The place of an element in the client area. -/
  clientPosition : ε → SessionM σ (Int64 × Int64)
  /-- Executes the widget of an element, if it can be executed. -/
  execute : ε → SessionM σ Bool
  listen : ε → ClickListener → SessionM σ Unit

/-- The mouse events of a click, in order. -/
def clickSequence : List String :=
  ["mouseover", "mousedown", "mouseup", "click"]

namespace EventHost

variable {σ ν ε : Type} (host : EventHost σ ν ε)

/-- Makes a mouse event the way the host does it. -/
def trigger (eventType : String) (element : ε) (parameters : MouseParameters) : SessionM σ Unit :=
  let event := MouseEvent.of eventType parameters host.model
  match host.model with
  | .standard => host.dispatch element event
  | .legacy => host.fire element ("on" ++ eventType) event

/-- Makes the events of some types, up to the first that is rejected. -/
def triggerAll (element : ε) (parameters : MouseParameters) : List String → SessionM σ Unit
  | [] => pure ()
  | eventType :: eventTypes => do
    host.trigger eventType element parameters
    triggerAll element parameters eventTypes

/-- Clicks an element: focuses it and makes the events of a click. -/
def click (element : ε) (parameters : MouseParameters) : SessionM σ Unit := do
  host.focus element
  host.triggerAll element parameters clickSequence

end EventHost

end WidgetLocator
