import WidgetLocator.Proofs.Event.Click
import WidgetLocator.Proofs.Event.Numbers

namespace WidgetLocator

/-- Parameters with a place in the client area behind them. -/
def withPlace (parameters : String) (x y : Int64) : String :=
  parameters ++ ",clientX=" ++ int64Text x ++ ",clientY=" ++ int64Text y

/-- An event with another place in the client area. -/
def MouseEvent.movedTo (event : MouseEvent) (x y : Int64) : MouseEvent :=
  { event with clientX := x, clientY := y }

@[simp] theorem MouseEvent.clientX_movedTo (event : MouseEvent) (x y : Int64) :
    (event.movedTo x y).clientX = x :=
  rfl

@[simp] theorem MouseEvent.clientY_movedTo (event : MouseEvent) (x y : Int64) :
    (event.movedTo x y).clientY = y :=
  rfl

theorem parse_withPlace (text : String) (x y : Int64) : MouseParameters.parse (withPlace text x y) =
    ((MouseParameters.parse text).withNumber "clientX" x).withNumber "clientY" y := by
  have split : withPlace text x y =
      text ++ "," ++ ("clientX" ++ "=" ++ int64Text x) ++ "," ++ ("clientY" ++ "=" ++ int64Text y) := by
    rw [← String.toList_inj]
    simp [withPlace, String.toList_append]
  rw [split, MouseParameters.parse_appended_number (by decide +kernel),
    MouseParameters.parse_appended_number (by decide +kernel)]

/-- A place that is set replaces the one that was written, and nothing else. -/
theorem MouseEvent.of_place (parameters : MouseParameters) (eventType : String) (model : EventModel)
    (x y : Int64) :
    of eventType ((parameters.withNumber "clientX" x).withNumber "clientY" y) model =
      (of eventType parameters model).movedTo (leadingInteger (int64Text x).toList)
        (leadingInteger (int64Text y).toList) := by
  simp [of, movedTo, MouseParameters.flag, MouseParameters.number, MouseParameters.button,
    MouseParameters.get?_withNumber]

namespace InputCall

variable {ε : Type}

/-- The mouse event of a call. -/
def event? : InputCall ε → Option MouseEvent
  | focus _ => none
  | dispatch _ event | fire _ _ event => some event

theorem exists_of_mem_clickCalls {σ ν : Type} {host : EventHost σ ν ε} {element : ε}
    {parameters : MouseParameters} {call : InputCall ε} {event : MouseEvent}
    (h : call ∈ host.clickCalls element parameters) (he : call.event? = some event) :
    ∃ eventType, event = .of eventType parameters host.model := by
  rcases List.mem_cons.mp h with rfl | h
  · cases he
  · obtain ⟨eventType, _, rfl⟩ := List.mem_map.mp h
    refine ⟨eventType, Option.some.inj (he.symm.trans ?_)⟩
    cases host.model <;> rfl

end InputCall

theorem EventHost.makes_clientPosition {σ ν ε : Type} (host : EventHost σ ν ε) (s : Session σ)
    (element : ε) : s.Makes (host.clientPosition element) (host.watched.clientPosition element)
      ([] : List (InputCall ε)) := by
  intro log
  rw [List.append_nil]
  exact ⟨rfl, rfl⟩

namespace Commands

variable {σ ν ε : Type} [DecidableEq ν] {commands : Commands σ ν ε} {locator parameters : String}
  {s : Session σ} {element : ε} {x y : Int64}

theorem clickAt_of_element (h : commands.element locator = .ok element) :
    commands.clickAt locator parameters = commands.host.clientPosition element >>= fun place =>
      commands.click locator (withPlace parameters place.1 place.2) := by
  rw [clickAt, findElement_of_element h, pure_bind]
  refine bind_congr fun place => ?_
  rw [click, findElement_of_element h, pure_bind, parse_withPlace]

theorem element_of_result (h : s.result (commands.findElement locator) = .ok element) :
    commands.element locator = .ok element :=
  result_findElement.symm.trans h

theorem clickAt_of_place (parameters : String) (found : commands.element locator = .ok element)
    (place : s.result (commands.host.clientPosition element) = .ok (x, y)) :
    let asked := s.after (commands.host.clientPosition element)
    let click := commands.click locator (withPlace parameters x y)
    s.result (commands.clickAt locator parameters) = asked.result click ∧
      s.after (commands.clickAt locator parameters) = asked.after click := by
  intro asked click
  let next (place : Int64 × Int64) : SessionM σ Unit :=
    commands.click locator (withPlace parameters place.1 place.2)
  have split : commands.clickAt locator parameters = commands.host.clientPosition element >>= next :=
    clickAt_of_element found
  have placed : next (x, y) = click := rfl
  rw [split, ← placed]
  exact Session.bind_of_ok next place

/-- The calls of a click at a place are those of a plain click, and are written down alike. -/
theorem makes_clickAt (found : commands.element locator = .ok element)
    (place : s.result (commands.host.clientPosition element) = .ok (x, y))
    {made : List (InputCall ε)}
    (makes : (s.after (commands.host.clientPosition element)).Makes
      (commands.click locator (withPlace parameters x y))
      (commands.watched.click locator (withPlace parameters x y)) made) :
    s.Makes (commands.clickAt locator parameters) (commands.watched.clickAt locator parameters) made := by
  have watched : commands.watched.element locator = .ok element := found
  rw [clickAt_of_element found, clickAt_of_element watched]
  exact (commands.host.makes_clientPosition s element).bind_ok place makes

end Commands

namespace RecordingHost

variable {host : RecordingHost} {configuration : Configuration} {locator parameters element : String}

/-- Asking a recording host for a place changes nothing. -/
theorem clickAt_placed (found : (host.commands configuration).element locator = .ok element)
    (s : Session Recording) :
    let place := (host.positions.get? element).getD (0, 0)
    let click := (host.commands configuration).click locator (withPlace parameters place.1 place.2)
    s.result ((host.commands configuration).clickAt locator parameters) = s.result click ∧
      s.after ((host.commands configuration).clickAt locator parameters) = s.after click := by
  intro place click
  obtain ⟨result, unchanged⟩ := clientPosition_known (hasElement_of_element found) s
  have placed := Commands.clickAt_of_place parameters found result
  have same : s.after ((host.commands configuration).host.clientPosition element) = s := unchanged
  rwa [same] at placed

end RecordingHost

/-- A click at the place of an element is a plain click with that place behind its parameters, in the
session that asking for the place leaves: it has the same result, leaves the same session and makes the
same input calls. A recording host stays as it is when it is asked. A place that was written before does
not count, and every other parameter does as before. -/
theorem clickAt_appends_place :
    (∀ {σ ν ε : Type} [DecidableEq ν] (commands : Commands σ ν ε) (locator parameters : String)
      (s : Session σ) (element : ε) (x y : Int64),
      s.result (commands.findElement locator) = .ok element →
      s.result (commands.host.clientPosition element) = .ok (x, y) →
      let asked := s.after (commands.host.clientPosition element)
      let placed := withPlace parameters x y
      s.result (commands.clickAt locator parameters) = asked.result (commands.click locator placed) ∧
        s.after (commands.clickAt locator parameters) = asked.after (commands.click locator placed) ∧
        ∃ made, s.Makes (commands.clickAt locator parameters)
            (commands.watched.clickAt locator parameters) made ∧
          asked.Makes (commands.click locator placed) (commands.watched.click locator placed) made) ∧
    (∀ (host : RecordingHost) (configuration : Configuration) (locator parameters element : String)
      (s : Session Recording),
      let commands := host.commands configuration
      s.result (commands.findElement locator) = .ok element →
      let place := (host.positions.get? element).getD (0, 0)
      let placed := withPlace parameters place.1 place.2
      s.result (commands.clickAt locator parameters) = s.result (commands.click locator placed) ∧
        s.after (commands.clickAt locator parameters) = s.after (commands.click locator placed)) ∧
    ∀ (parameters : String) (x y : Int64),
      let placed := MouseParameters.parse (withPlace parameters x y)
      (∀ name, name ≠ "clientX" → name ≠ "clientY" →
        placed.values.get? name = (MouseParameters.parse parameters).values.get? name) ∧
      ∀ eventType model, MouseEvent.of eventType placed model =
        (MouseEvent.of eventType (.parse parameters) model).movedTo
          (leadingInteger (int64Text x).toList) (leadingInteger (int64Text y).toList) := by
  refine ⟨?_, ?_, fun parameters x y => ?_⟩
  · intro σ ν ε _ commands locator parameters s element x y found place
    have element := Commands.element_of_result found
    obtain ⟨result, session⟩ := Commands.clickAt_of_place parameters element place
    obtain ⟨made, makes⟩ := commands.exists_clickMakes locator (withPlace parameters x y) _
    exact ⟨result, session, made, Commands.makes_clickAt element place makes.written, makes.written⟩
  · intro host configuration locator parameters element s commands found
    exact RecordingHost.clickAt_placed (Commands.element_of_result found) s
  · intro placed
    have set : placed = _ := parse_withPlace parameters x y
    refine ⟨fun name notX notY => ?_, fun eventType model => ?_⟩
    · rw [set]
      simp [MouseParameters.withNumber, MouseParameters.withText, Table.get?_insert, notX, notY]
    · rw [set, MouseEvent.of_place]

/-- A host that takes as many calls as its state says, also when it is asked for a place. -/
def tiringPlace : EventHost Nat NodeId String :=
  { tiringHost with
    clientPosition := fun _ => do
      takeCall
      return (40, -12) }

theorem clickAt_appends_place_asked :
    let commands : Commands Nat NodeId String := ⟨tiringPlace, .standard⟩
    let s : Session Nat := ⟨3, ⟨.empty, []⟩⟩
    let asked : Session Nat := ⟨2, ⟨.empty, []⟩⟩
    let recording := RecordingHost.withDocumentWidget.commands .standard
    let start : Session Recording := ⟨.empty, ⟨.empty, []⟩⟩
    let written := "clientX=9,button=right"
    let placed := "clientX=9,button=right,clientX=40,clientY=-12"
    (s.result (commands.clickAt "id=document" written) =
        asked.result (commands.click "id=document" placed) ∧
      s.after (commands.clickAt "id=document" written) =
        asked.after (commands.click "id=document" placed) ∧
      ∃ made, s.Makes (commands.clickAt "id=document" written)
          (commands.watched.clickAt "id=document" written) made ∧
        asked.Makes (commands.click "id=document" placed)
          (commands.watched.click "id=document" placed) made) ∧
    (start.result (recording.clickAt "id=document" written) =
        start.result (recording.click "id=document" (withPlace written 0 0)) ∧
      start.after (recording.clickAt "id=document" written) =
        start.after (recording.click "id=document" (withPlace written 0 0))) ∧
    (MouseParameters.parse placed).values.get? "button" =
      (MouseParameters.parse written).values.get? "button" ∧
    MouseEvent.of "click" (.parse placed) .legacy =
      (MouseEvent.of "click" (.parse written) .legacy).movedTo 40 (-12) := by
  intro commands s asked recording start written placed
  have whole : withPlace written 40 (-12) = placed := by decide +kernel
  have found : s.result (commands.findElement "id=document") = .ok "document" := by decide +kernel
  have found' : start.result (recording.findElement "id=document") = .ok "document" := by decide +kernel
  obtain ⟨clicks, recorded, parameters⟩ := clickAt_appends_place
  have made := clicks commands "id=document" written s "document" 40 (-12) found rfl
  have same := recorded RecordingHost.withDocumentWidget .standard "id=document" written "document" start
    found'
  obtain ⟨others, events⟩ := parameters written 40 (-12)
  have read : leadingInteger (int64Text 40).toList = 40 ∧ leadingInteger (int64Text (-12)).toList = -12 := by
    decide +kernel
  rw [whole] at made others events
  refine ⟨made, same, others "button" (by decide) (by decide), ?_⟩
  rw [events, read.1, read.2]

theorem InputCall.place_of_mem_clickCalls {σ ν ε : Type} {host : EventHost σ ν ε} {element : ε}
    {text : String} {x y : Int64} {call : InputCall ε} {event : MouseEvent}
    (h : call ∈ host.clickCalls element (.parse (withPlace text x y))) (he : call.event? = some event) :
    event.clientX = leadingInteger (int64Text x).toList ∧
      event.clientY = leadingInteger (int64Text y).toList := by
  obtain ⟨eventType, rfl⟩ := exists_of_mem_clickCalls h he
  rw [parse_withPlace, MouseEvent.of_place]
  exact ⟨MouseEvent.clientX_movedTo .., MouseEvent.clientY_movedTo ..⟩

/-- An integer that is set among the parameters is read back exactly if it is not the least one of signed
64 bits, which is read as zero. So the events of a click at the place of an element carry each coordinate
that the host has told, unless it is the least integer. -/
theorem integers_read_back (parameters : MouseParameters) (name : String) (default n : Int64) :
    ((parameters.withNumber name n).number name default = n ↔ n ≠ Int64.minValue) ∧
    (n = Int64.minValue → (parameters.withNumber name n).number name default = 0) ∧
    ∀ {σ ν ε : Type} [DecidableEq ν] (commands : Commands σ ν ε) (locator parameters : String)
      (s : Session σ) (element : ε) (x y : Int64),
      s.result (commands.findElement locator) = .ok element →
      s.result (commands.host.clientPosition element) = .ok (x, y) →
      ∃ made, s.Makes (commands.clickAt locator parameters)
          (commands.watched.clickAt locator parameters) made ∧
        ∀ call ∈ made, ∀ event, call.event? = some event →
          (event.clientX = x ↔ x ≠ Int64.minValue) ∧ (event.clientY = y ↔ y ≠ Int64.minValue) := by
  rw [MouseParameters.number_withNumber]
  refine ⟨leadingInteger_int64Text_eq_iff n, fun least => ?_, ?_⟩
  · rw [leadingInteger_int64Text, if_pos least]
  · intro σ ν ε _ commands locator parameters s element x y found place
    have element_found := Commands.element_of_result found
    let asked := s.after (commands.host.clientPosition element)
    obtain ⟨made, makes⟩ := commands.exists_clickMakes locator (withPlace parameters x y) asked
    have inOrder := makes.inOrder element (Commands.result_findElement.trans element_found)
    refine ⟨made, Commands.makes_clickAt element_found place makes.written, fun call hc event he => ?_⟩
    obtain ⟨clientX, clientY⟩ := InputCall.place_of_mem_clickCalls (inOrder.subset hc) he
    rw [clientX, clientY]
    exact ⟨leadingInteger_int64Text_eq_iff x, leadingInteger_int64Text_eq_iff y⟩

/-- The digits of the least integer are too many without their sign. -/
theorem least_integer_lost :
    let parameters := (MouseParameters.parse "").withNumber "clientX" Int64.minValue
    parameters.number "clientX" 7 = 0 ∧ parameters.number "clientX" 7 ≠ Int64.minValue := by
  decide +kernel

theorem integers_read_back_greatest :
    let commands : Commands Nat NodeId String := ⟨tiringPlace, .standard⟩
    let s : Session Nat := ⟨3, ⟨.empty, []⟩⟩
    ((MouseParameters.parse "").withNumber "detail" Int64.maxValue).number "detail" 1 =
        Int64.maxValue ∧
      ∃ made, s.Makes (commands.clickAt "id=document" "clientX=9")
          (commands.watched.clickAt "id=document" "clientX=9") made ∧
        ∀ call ∈ made, ∀ event, call.event? = some event → event.clientX = 40 ∧ event.clientY = -12 := by
  intro commands s
  have found : s.result (commands.findElement "id=document") = .ok "document" := by decide +kernel
  obtain ⟨number, -, places⟩ := integers_read_back (.parse "") "detail" 1 Int64.maxValue
  obtain ⟨made, makes, events⟩ := places commands "id=document" "clientX=9" s "document" 40 (-12) found
    rfl
  refine ⟨number.mpr (by decide), made, makes, fun call hc event he => ?_⟩
  obtain ⟨clientX, clientY⟩ := events call hc event he
  exact ⟨clientX.mpr (by decide), clientY.mpr (by decide)⟩

end WidgetLocator
