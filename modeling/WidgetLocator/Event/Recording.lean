import WidgetLocator.Event.Host
import WidgetLocator.Snapshot

namespace WidgetLocator

inductive RecordedEvent where
  | focus (element : String)
  | mouse (element : String) (event : MouseEvent)
  | legacy (element handler : String) (event : MouseEvent)
  | execute (element : String)
deriving DecidableEq, Repr, Inhabited

def RecordedEvent.mouseType? : RecordedEvent → Option String
  | mouse _ event => some event.eventType
  | legacy _ _ event => some event.eventType
  | _ => none

/-- What has been recorded, and the listeners that are waiting, in the order in which they came. -/
structure Recording where
  events : List RecordedEvent
  listeners : List (String × ClickListener)

def Recording.empty : Recording :=
  ⟨[], []⟩

def Recording.mouseTypes (recording : Recording) : List String :=
  recording.events.filterMap RecordedEvent.mouseType?

/-- A snapshot as it is shown in a window. -/
structure RecordingHost where
  snapshot : Snapshot
  model : EventModel
  windowWidth : UInt32
  windowHeight : UInt32
  scrollX : Int64
  scrollY : Int64
  /-- The places of elements in the client area. All others are at its corner. -/
  positions : Table (Int64 × Int64)

namespace RecordingHost

/-- A window of usual size that is not scrolled. -/
def ofSnapshot (snapshot : Snapshot) : RecordingHost :=
  ⟨snapshot, .standard, 1024, 768, 0, 0, .empty⟩

variable (host : RecordingHost)

/-- Whether an element is the document or renders a node. -/
def hasElement (element : String) : Bool :=
  element == Snapshot.documentElement || (host.snapshot.nodeForElement? element).isSome

/-- Rejects what is done to an unknown element. -/
def requireElement (element : String) : SessionM Recording Unit :=
  if host.hasElement element then pure ()
  else throw (.eventDispatch (.unknownElement element))

def record (event : RecordedEvent) : SessionM Recording Unit :=
  modify fun s => { s with host := { s.host with events := s.host.events ++ [event] } }

/-- What is seen of a click. -/
def observe (event : MouseEvent) : ClickObservation where
  screenX := event.screenX
  screenY := event.screenY
  clientX := event.clientX
  clientY := event.clientY
  pageX := 0
  pageY := 0
  scrollX := host.scrollX
  scrollY := host.scrollY
  windowWidth := host.windowWidth
  windowHeight := host.windowHeight

/-- Runs the listeners that are waiting at an element, and lets them go. -/
def notify (element : String) (event : MouseEvent) : SessionM Recording Unit :=
  modify fun s =>
    let (fired, kept) := s.host.listeners.partition fun (target, _) => target == element
    let click := host.observe event
    ⟨{ s.host with listeners := kept }, fired.foldl (fun notes (_, listener) => listener click notes)
      s.notes⟩

def dispatch (element : String) (event : MouseEvent) : SessionM Recording Unit := do
  host.requireElement element
  record (.mouse element event)
  if event.eventType = "click" then host.notify element event

def fire (element handler : String) (event : MouseEvent) : SessionM Recording Unit := do
  host.requireElement element
  record (.legacy element handler event)
  if handler = "onclick" then host.notify element event

def focus (element : String) : SessionM Recording Unit := do
  host.requireElement element
  record (.focus element)

def clientPosition (element : String) : SessionM Recording (Int64 × Int64) := do
  host.requireElement element
  return (host.positions.get? element).getD (0, 0)

def execute (element : String) : SessionM Recording Bool := do
  if (host.snapshot.nodeForElement? element).any host.snapshot.isExecutable then
    record (.execute element)
    return true
  return false

def listen (element : String) (listener : ClickListener) : SessionM Recording Unit := do
  host.requireElement element
  modify fun s =>
    { s with host := { s.host with listeners := s.host.listeners ++ [(element, listener)] } }

def eventHost : EventHost Recording NodeId String where
  window := host.snapshot.window
  model := host.model
  dispatch := host.dispatch
  fire := host.fire
  focus := host.focus
  clientPosition := host.clientPosition
  execute := host.execute
  listen := host.listen

end RecordingHost

end WidgetLocator
