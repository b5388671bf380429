import WidgetLocator.Proofs.Event.Click
import WidgetLocator.Proofs.Loading.Parents

namespace WidgetLocator

namespace Snapshot

/-- The first node that an element renders. -/
structure FirstRendered (snapshot : Snapshot) (element : String) (first : NodeId) : Prop where
  renders : snapshot.elementOf first = some element
  first : ∀ node, snapshot.elementOf node = some element → first ≤ node

variable {snapshot : Snapshot} {element : String} {first node : NodeId}

theorem elementOf_eq_some_iff :
    snapshot.elementOf node = some element ↔ ∃ found, snapshot.nodes[node]? = some found ∧
      (found.element == some element) = true := by
  simp only [elementOf, Option.bind_eq_some_iff, beq_iff_eq]

theorem nodeForElement?_eq_some_iff :
    snapshot.nodeForElement? element = some first ↔ snapshot.FirstRendered element first := by
  rw [nodeForElement?, Array.findIdx?_eq_some_iff_getElem]
  constructor
  · rintro ⟨inside, renders, before⟩
    refine ⟨elementOf_eq_some_iff.mpr ⟨_, Array.getElem?_eq_getElem inside, renders⟩, ?_⟩
    intro node h
    obtain ⟨found, hn, rendered⟩ := elementOf_eq_some_iff.mp h
    obtain ⟨_, rfl⟩ := Array.getElem?_eq_some_iff.mp hn
    by_contra less
    exact before node (not_le.mp less) rendered
  · rintro ⟨renders, least⟩
    obtain ⟨found, hf, rendered⟩ := elementOf_eq_some_iff.mp renders
    obtain ⟨inside, rfl⟩ := Array.getElem?_eq_some_iff.mp hf
    refine ⟨inside, rendered, fun node less again => ?_⟩
    have hn := Array.getElem?_eq_getElem (less.trans inside)
    exact absurd (least node (elementOf_eq_some_iff.mpr ⟨_, hn, again⟩)) (not_le.mpr less)

/-- An element that renders a node leads to the first one. -/
theorem exists_firstRendered (h : snapshot.elementOf node = some element) :
    ∃ first, snapshot.nodeForElement? element = some first ∧ snapshot.FirstRendered element first := by
  obtain ⟨first, hf⟩ := Option.isSome_iff_exists.mp (isSome_nodeForElement? h)
  exact ⟨first, hf, nodeForElement?_eq_some_iff.mp hf⟩

theorem lt_size_of_elementOf (h : snapshot.elementOf node = some element) : node < snapshot.size := by
  obtain ⟨_, hn, _⟩ := elementOf_eq_some_iff.mp h
  exact (Array.getElem?_eq_some_iff.mp hn).1

/-- The first node is that with the smallest name. -/
theorem FirstRendered.name_le {document : SnapshotDocument} (loaded : ofDocument document = .ok snapshot)
    (h : snapshot.FirstRendered element first) (rendered : snapshot.elementOf node = some element) :
    utf8 (snapshot.idOf first) ≤ utf8 (snapshot.idOf node) := by
  have named {node : NodeId} (h : snapshot.elementOf node = some element) :
      NumberedBy document.nodes.names node (snapshot.idOf node) :=
    (names_iff_numberedBy loaded).mp ⟨lt_size_of_elementOf h, rfl⟩
  exact utf8_le_iff.mpr (((named h.renders).le_iff (named rendered)).mp (h.first node rendered))

end Snapshot

namespace RecordingHost

variable {host : RecordingHost} {configuration : Configuration} {text element : String}

/-- The events of an element whose widget is executed, if it can be. -/
def executionEvents (element : String) (executable : Bool) : List RecordedEvent :=
  if executable then [.execute element] else []

theorem executionEvents_inj {a b : Bool} :
    executionEvents element a = executionEvents element b ↔ a = b := by
  cases a <;> cases b <;> simp [executionEvents]

/-- Nothing but the events changes when a widget is executed. -/
theorem deliver_executionEvents (s : Session Recording) (executable : Bool) :
    (executionEvents element executable).foldl host.deliver s =
      { s with host := { s.host with events := s.host.events ++ executionEvents element executable } } := by
  cases executable
  · simp [executionEvents]
  · have unheard : (RecordedEvent.execute element).click? = none := rfl
    have recorded : host.deliver s (.execute element) = _ := deliver_of_no_click unheard
    exact recorded

theorem execute_first {first : NodeId} (h : host.snapshot.nodeForElement? element = some first) :
    host.Delivers (host.execute element) (.ok (host.snapshot.isExecutable first))
      (executionEvents element (host.snapshot.isExecutable first)) := by
  have delivered := host.execute_delivers element
  rw [h, Option.any_some] at delivered
  exact delivered

theorem execute_of_element {first : NodeId}
    (found : (host.commands configuration).element text = .ok element)
    (h : host.snapshot.nodeForElement? element = some first) :
    host.Delivers ((host.commands configuration).execute text) (.ok ())
      (executionEvents element (host.snapshot.isExecutable first)) := by
  rw [Commands.execute, Commands.findElement_of_element found, pure_bind, ← List.append_nil
    (executionEvents element _)]
  exact (execute_first h).bind (.pure ())

/-- The element of a locator for a widget is that of the widget. -/
theorem element_of_widget {locator : QxLocator} {widget : NodeId}
    (parsed : Locator.parse text = .ok (.qx locator))
    (family : ∀ path xpath, locator ≠ .tagXPath path xpath)
    (located : (host.snapshot.dispatcher configuration).locateObject locator = .ok (some widget))
    (shown : host.snapshot.elementOf widget = some element) :
    (host.commands configuration).element text = .ok element := by
  have found : (host.snapshot.dispatcher configuration).findElement text = _ :=
    Dispatcher.findElement_of_object parsed family
  have rendered : (host.snapshot.dispatcher configuration).elementOf? (some widget) = some element := shown
  rw [located, Except.map, rendered] at found
  have same : (host.commands configuration).dispatcher.findElement text = .ok (some element) := found
  rw [Commands.element, same]

/-- To execute a located widget with an element always succeeds, and executes the first widget, in the
order of the names, that the element renders, if that widget can be executed. Nothing but the event is
left in the session. This is what the located widget asks for exactly if it is like the first one in
whether it can be executed. -/
theorem executes_first_of_element {document : SnapshotDocument} {locator : QxLocator} {widget : NodeId}
    (loaded : Snapshot.ofDocument document = .ok host.snapshot)
    (parsed : Locator.parse text = .ok (.qx locator))
    (family : ∀ path xpath, locator ≠ .tagXPath path xpath)
    (located : (host.snapshot.dispatcher configuration).locateObject locator = .ok (some widget))
    (shown : host.snapshot.elementOf widget = some element) (s : Session Recording) :
    let executed := (host.commands configuration).execute text
    s.result executed = .ok () ∧
    ∃ first, host.snapshot.FirstRendered element first ∧
      (∀ node, host.snapshot.elementOf node = some element →
        utf8 (host.snapshot.idOf first) ≤ utf8 (host.snapshot.idOf node)) ∧
      s.after executed = { s with host := { s.host with
        events := s.host.events ++ executionEvents element (host.snapshot.isExecutable first) } } ∧
      ((s.after executed).host.events =
          s.host.events ++ executionEvents element (host.snapshot.isExecutable widget) ↔
        host.snapshot.isExecutable first = host.snapshot.isExecutable widget) := by
  intro executed
  obtain ⟨first, hf, rendered⟩ := Snapshot.exists_firstRendered shown
  obtain ⟨result, after⟩ := execute_of_element (element_of_widget parsed family located shown) hf s
  rw [deliver_executionEvents] at after
  refine ⟨result, first, rendered, fun node => rendered.name_le loaded, after, ?_⟩
  rw [after, List.append_cancel_left_eq]
  exact executionEvents_inj

/-- Two widgets below a root with one element between them, and a tag for each. -/
def sharingElement (first second : Bool) : SnapshotDocument where
  location := none
  toolkit := none
  application := some "root"
  clientDocument := some "root"
  classes := none
  nodes := ⟨[
    ("a", { Snapshot.parentOf [] with
      element := some "shared", executable := first
      userData := ⟨[("first", .bool true)], by simp⟩ }),
    ("b", { Snapshot.parentOf [] with
      element := some "shared", executable := second
      userData := ⟨[("second", .bool true)], by simp⟩ }),
    ("root", Snapshot.parentOf ["a", "b"])], by decide +revert⟩

theorem executes_first_of_element_shared :
    ∃ snapshot, Snapshot.ofDocument (sharingElement true false) = .ok snapshot ∧
      snapshot.elementOf 0 = some "shared" ∧ snapshot.elementOf 1 = some "shared" ∧
      ∀ s : Session Recording,
        let executed := ((ofSnapshot snapshot).commands .standard).execute "qx=second"
        s.result executed = .ok () ∧
          (s.after executed).host.events = s.host.events ++ [.execute "shared"] := by
  have followed : (do
      let snapshot ← Snapshot.ofDocument (sharingElement true false)
      let widget ← (snapshot.dispatcher .standard).locateObject (.tag "second")
      return (widget, snapshot.elementOf 0, snapshot.elementOf 1, snapshot.isExecutable 0) :
      Except Error _) = .ok (some 1, some "shared", some "shared", true) := by
    decide +kernel
  obtain ⟨snapshot, loaded, followed⟩ := exists_of_bind_eq_ok followed
  obtain ⟨widget, located, followed⟩ := exists_of_bind_eq_ok followed
  obtain ⟨rfl, first, second, executable⟩ : widget = some 1 ∧ snapshot.elementOf 0 = some "shared" ∧
      snapshot.elementOf 1 = some "shared" ∧ snapshot.isExecutable 0 = true := by
    simpa using Except.ok.inj followed
  refine ⟨snapshot, loaded, first, second, fun s => ?_⟩
  obtain ⟨accepted, least, rendered, -, after, -⟩ :=
    @executes_first_of_element (ofSnapshot snapshot) .standard "qx=second" "shared" _ _ 1
      loaded (Locator.parse_tag "second") (fun _ _ => nofun) located second s
  obtain rfl : least = 0 := Nat.le_zero.mp (rendered.first 0 first)
  refine ⟨accepted, ?_⟩
  rw [after]
  exact congrArg (s.host.events ++ executionEvents "shared" ·) executable

/-- A widget that can be executed is passed over for one that cannot. -/
theorem second_of_element_not_executed :
    ∃ snapshot, Snapshot.ofDocument (sharingElement false true) = .ok snapshot ∧
      (snapshot.dispatcher .standard).locateObject (.tag "second") = .ok (some 1) ∧
      snapshot.elementOf 1 = some "shared" ∧ snapshot.isExecutable 1 = true ∧
      let start : Session Recording := ⟨.empty, ⟨.empty, []⟩⟩
      let executed := ((ofSnapshot snapshot).commands .standard).execute "qx=second"
      start.result executed = .ok () ∧ (start.after executed).host.events = [] := by
  have followed : (do
      let snapshot ← Snapshot.ofDocument (sharingElement false true)
      let start : Session Recording := ⟨.empty, ⟨.empty, []⟩⟩
      let executed := ((ofSnapshot snapshot).commands .standard).execute "qx=second"
      let widget ← (snapshot.dispatcher .standard).locateObject (.tag "second")
      return ((widget, snapshot.elementOf 1, snapshot.isExecutable 1),
        start.result executed, (start.after executed).host.events) : Except Error _) =
      .ok ((some 1, some "shared", true), .ok (), []) := by
    decide +kernel
  obtain ⟨snapshot, loaded, followed⟩ := exists_of_bind_eq_ok followed
  obtain ⟨widget, located, followed⟩ := exists_of_bind_eq_ok followed
  obtain ⟨⟨rfl, shown, executable⟩, result, events⟩ : (widget = some 1 ∧
      snapshot.elementOf 1 = some "shared" ∧ snapshot.isExecutable 1 = true) ∧ _ ∧ _ := by
    simpa using Except.ok.inj followed
  exact ⟨snapshot, loaded, located, shown, executable, result, events⟩

end RecordingHost
end WidgetLocator
