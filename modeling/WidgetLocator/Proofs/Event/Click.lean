import WidgetLocator.Proofs.Event.Viewport
import WidgetLocator.Proofs.Locator.Failures

namespace WidgetLocator

/-- A call that gives input to an element. -/
inductive InputCall (ε : Type) where
  | focus (element : ε)
  | dispatch (element : ε) (event : MouseEvent)
  | fire (element : ε) (handler : String) (event : MouseEvent)
deriving DecidableEq

namespace InputCall

variable {ε : Type}

def element : InputCall ε → ε
  | focus element | dispatch element _ | fire element _ _ => element

/-- How a mouse event is made under a model. -/
def ofMouse (model : EventModel) (element : ε) (event : MouseEvent) : InputCall ε :=
  match model with
  | .standard => dispatch element event
  | .legacy => fire element ("on" ++ event.eventType) event

/-- The event that is recorded of a call. -/
def recorded : InputCall String → RecordedEvent
  | focus element => .focus element
  | dispatch element event => .mouse element event
  | fire element handler event => .legacy element handler event

end InputCall

section Watching

variable {σ ν ε α β : Type}

/-- A session in which some calls have been written down. -/
def Session.watched (s : Session σ) (log : List (InputCall ε)) : Session (σ × List (InputCall ε)) :=
  ⟨(s.host, log), s.notes⟩

/-- A call that is not written down. -/
def unwatched (call : SessionM σ α) : SessionM (σ × List (InputCall ε)) α :=
  ExceptT.mk fun s =>
    let (result, left) := call.run.run ⟨s.host.1, s.notes⟩
    (result, left.watched s.host.2)

/-- A call that is written down when it is made, whether it is rejected or not. -/
def watchedInput (input : InputCall ε) (call : SessionM σ α) :
    SessionM (σ × List (InputCall ε)) α := do
  modify fun s => { s with host := (s.host.1, s.host.2 ++ [input]) }
  unwatched call

/-- In a session a call makes some input calls, which are written down if it is watched. To watch it
changes nothing else. -/
def Session.Makes (s : Session σ) (call : SessionM σ α)
    (watched : SessionM (σ × List (InputCall ε)) α) (made : List (InputCall ε)) : Prop :=
  ∀ log, (s.watched log).result watched = s.result call ∧
    (s.watched log).after watched = (s.after call).watched (log ++ made)

section Bind

variable {s : Session σ} {call : SessionM σ α} {watched : SessionM (σ × List (InputCall ε)) α}
  {next : α → SessionM σ β} {watchedNext : α → SessionM (σ × List (InputCall ε)) β}
  {made later : List (InputCall ε)}

theorem Session.Makes.pure (s : Session σ) (a : α) :
    s.Makes (Pure.pure a) (Pure.pure a) ([] : List (InputCall ε)) :=
  fun log => ⟨rfl, by rw [List.append_nil]; rfl⟩

theorem Session.Makes.throw (s : Session σ) (e : Error) :
    s.Makes (MonadExcept.throw e : SessionM σ α) (MonadExcept.throw e) ([] : List (InputCall ε)) :=
  fun log => ⟨rfl, by rw [List.append_nil]; rfl⟩

theorem Session.Makes.bind_ok {a : α} (hc : s.Makes call watched made) (ok : s.result call = .ok a)
    (hn : (s.after call).Makes (next a) (watchedNext a) later) :
    s.Makes (call >>= next) (watched >>= watchedNext) (made ++ later) := by
  intro log
  obtain ⟨sameResult, sameSession⟩ := hc log
  obtain ⟨laterResult, laterSession⟩ := hn (log ++ made)
  obtain ⟨hr, ha⟩ := bind_of_ok next ok
  obtain ⟨hr', ha'⟩ := bind_of_ok watchedNext (sameResult.trans ok)
  rw [hr, ha, hr', ha', sameSession, laterResult, laterSession, List.append_assoc]
  exact ⟨rfl, rfl⟩

theorem Session.Makes.bind_error {e : Error} (hc : s.Makes call watched made)
    (error : s.result call = .error e) :
    s.Makes (call >>= next) (watched >>= watchedNext) made := by
  intro log
  obtain ⟨sameResult, sameSession⟩ := hc log
  obtain ⟨hr, ha⟩ := bind_of_error next error
  obtain ⟨hr', ha'⟩ := bind_of_error watchedNext (sameResult.trans error)
  rw [hr, ha, hr', ha', sameSession]
  exact ⟨rfl, rfl⟩

end Bind

namespace EventHost

variable (host : EventHost σ ν ε)

/-- A host that writes down its input calls. -/
def watched : EventHost (σ × List (InputCall ε)) ν ε where
  window := host.window
  model := host.model
  dispatch element event := watchedInput (.dispatch element event) (host.dispatch element event)
  fire element handler event :=
    watchedInput (.fire element handler event) (host.fire element handler event)
  focus element := watchedInput (.focus element) (host.focus element)
  clientPosition element := unwatched (host.clientPosition element)
  execute element := unwatched (host.execute element)
  listen element listener := unwatched (host.listen element listener)

/-- The calls of a click. Its mouse events differ in nothing but their types. -/
def clickCalls (element : ε) (parameters : MouseParameters) : List (InputCall ε) :=
  let event := MouseEvent.of "click" parameters host.model
  .focus element :: ["mouseover", "mousedown", "mouseup", "click"].map fun eventType =>
    .ofMouse host.model element { event with eventType }

def input : InputCall ε → SessionM σ Unit
  | .focus element => host.focus element
  | .dispatch element event => host.dispatch element event
  | .fire element handler event => host.fire element handler event

/-- Makes calls up to the first that is rejected. -/
def inputAll : List (InputCall ε) → SessionM σ Unit
  | [] => pure ()
  | call :: calls => do
    host.input call
    inputAll calls

/-- Some calls are accepted one after another, and lead from one session to another. -/
inductive Accepts : Session σ → List (InputCall ε) → Session σ → Prop where
  | nil (s : Session σ) : Accepts s [] s
  | cons {s left : Session σ} {call : InputCall ε} {calls : List (InputCall ε)} :
      s.result (host.input call) = .ok () → Accepts (s.after (host.input call)) calls left →
      Accepts s (call :: calls) left

/-- Which of some calls are made, and what comes of it. -/
inductive Stops (s : Session σ) (calls : List (InputCall ε)) :
    List (InputCall ε) → Except Error Unit → Prop where
  | accepted {left : Session σ} : host.Accepts s calls left → Stops s calls calls (.ok ())
  | rejected {earlier later : List (InputCall ε)} {call : InputCall ε} {left : Session σ}
      {e : Error} : calls = earlier ++ call :: later → host.Accepts s earlier left →
      left.result (host.input call) = .error e → Stops s calls (earlier ++ [call]) (.error e)

variable {host} {s left : Session σ} {call : InputCall ε} {calls made : List (InputCall ε)}
  {result : Except Error Unit} {e : Error}

theorem trigger_eq_input (eventType : String) (element : ε) (parameters : MouseParameters) :
    host.trigger eventType element parameters =
      host.input (.ofMouse host.model element (.of eventType parameters host.model)) := by
  unfold trigger InputCall.ofMouse
  cases host.model <;> rfl

theorem triggerAll_eq_inputAll (element : ε) (parameters : MouseParameters)
    (eventTypes : List String) : host.triggerAll element parameters eventTypes =
      host.inputAll (eventTypes.map fun eventType =>
        .ofMouse host.model element (.of eventType parameters host.model)) := by
  induction eventTypes with
  | nil => rfl
  | cons eventType rest ih =>
    rw [triggerAll, ih, trigger_eq_input]
    rfl

theorem click_eq_inputAll (element : ε) (parameters : MouseParameters) :
    host.click element parameters = host.inputAll (host.clickCalls element parameters) := by
  rw [click, triggerAll_eq_inputAll]
  rfl

theorem Stops.first (h : s.result (host.input call) = .error e) :
    host.Stops s (call :: calls) [call] (.error e) := by
  change host.Stops s (call :: calls) ([] ++ [call]) (.error e)
  exact .rejected rfl (.nil s) h

theorem Stops.next (h : s.result (host.input call) = .ok ())
    (hs : host.Stops (s.after (host.input call)) calls made result) :
    host.Stops s (call :: calls) (call :: made) result := by
  cases hs with
  | accepted accepts => exact .accepted (.cons h accepts)
  | rejected split accepts refused =>
    rw [← List.cons_append]
    exact .rejected (congrArg (call :: ·) split) (.cons h accepts) refused

theorem Stops.made_isPrefix (h : host.Stops s calls made result) : made <+: calls := by
  cases h with
  | accepted => exact List.prefix_rfl
  | @rejected _ later _ _ _ split =>
    rw [split, List.append_cons _ _ later]
    exact List.prefix_append _ _

theorem result_inputAll_of_accepts (h : host.Accepts s calls left) :
    s.result (host.inputAll calls) = .ok () := by
  induction h with
  | nil => rfl
  | cons accepted _ ih =>
    obtain ⟨hr, -⟩ := Session.bind_of_ok (fun _ => host.inputAll _) accepted
    exact hr.trans ih

theorem Stops.accepted_iff (h : host.Stops s calls made (s.result (host.inputAll calls))) :
    s.result (host.inputAll calls) = .ok () ↔ ∃ left, host.Accepts s calls left := by
  constructor
  · intro ok
    rw [ok] at h
    cases h with
    | accepted accepts => exact ⟨_, accepts⟩
  · rintro ⟨left, accepts⟩
    exact result_inputAll_of_accepts accepts

theorem makes_input (host : EventHost σ ν ε) (s : Session σ) (call : InputCall ε) :
    s.Makes (host.input call) (host.watched.input call) [call] := by
  intro log
  cases call <;> exact ⟨rfl, rfl⟩

theorem exists_makes_inputAll (host : EventHost σ ν ε) (s : Session σ) (calls : List (InputCall ε)) :
    ∃ made, s.Makes (host.inputAll calls) (host.watched.inputAll calls) made ∧
      host.Stops s calls made (s.result (host.inputAll calls)) := by
  -- the later calls are made in the session that the first one leaves, if it is accepted
  induction calls generalizing s with
  | nil => exact ⟨[], .pure s (), .accepted (.nil s)⟩
  | cons call calls ih =>
    have makes := host.makes_input s call
    cases first : s.result (host.input call) with
    | error e =>
      obtain ⟨result, -⟩ := Session.bind_of_error (fun _ => host.inputAll calls) first
      exact ⟨[call], makes.bind_error first, result.symm ▸ .first first⟩
    | ok =>
      obtain ⟨result, -⟩ := Session.bind_of_ok (fun _ => host.inputAll calls) first
      obtain ⟨made, later, stops⟩ := ih (s.after (host.input call))
      exact ⟨call :: made, makes.bind_ok first later, result.symm ▸ .next first stops⟩

end EventHost

end Watching

namespace Commands

variable {σ ν ε : Type} [DecidableEq ν]

def watched (commands : Commands σ ν ε) : Commands (σ × List (InputCall ε)) ν ε :=
  ⟨commands.host.watched, commands.configuration⟩

/-- A click makes some calls: those of a click on the element that was found, up to the first that is
rejected. -/
structure ClickMakes (commands : Commands σ ν ε) (locator parameters : String) (s : Session σ)
    (made : List (InputCall ε)) : Prop where
  written : s.Makes (commands.click locator parameters)
    (commands.watched.click locator parameters) made
  unfound : ∀ e, s.result (commands.findElement locator) = .error e →
    made = [] ∧ s.result (commands.click locator parameters) = .error e ∧
      s.after (commands.click locator parameters) = s
  inOrder : ∀ element, s.result (commands.findElement locator) = .ok element →
    made <+: commands.host.clickCalls element (.parse parameters)
  stops : ∀ element, s.result (commands.findElement locator) = .ok element →
    commands.host.Stops s (commands.host.clickCalls element (.parse parameters)) made
      (s.result (commands.click locator parameters))
  accepted_iff : ∀ element, s.result (commands.findElement locator) = .ok element →
    (s.result (commands.click locator parameters) = .ok () ↔ ∃ left,
      commands.host.Accepts s (commands.host.clickCalls element (.parse parameters)) left)

variable {commands : Commands σ ν ε} {locator parameters : String} {s : Session σ} {element : ε}
  {e : Error}

theorem findElement_of_element (h : commands.element locator = .ok element) :
    commands.findElement locator = pure element := by
  unfold findElement
  rw [h]

theorem findElement_of_error (h : commands.element locator = .error e) :
    commands.findElement locator = throw e := by
  unfold findElement
  rw [h]

theorem result_findElement : s.result (commands.findElement locator) = commands.element locator := by
  cases h : commands.element locator with
  | ok element => rw [findElement_of_element h]; rfl
  | error e => rw [findElement_of_error h]; rfl

theorem click_of_element (h : commands.element locator = .ok element) :
    commands.click locator parameters =
      commands.host.inputAll (commands.host.clickCalls element (.parse parameters)) := by
  rw [click, findElement_of_element h, pure_bind]
  exact EventHost.click_eq_inputAll element _

theorem click_of_error (h : commands.element locator = .error e) :
    commands.click locator parameters = throw e := by
  rw [click, findElement_of_error h]
  rfl

theorem clickMakes_of_error (h : commands.element locator = .error e) :
    commands.ClickMakes locator parameters s [] := by
  have click : commands.click locator parameters = throw e := click_of_error h
  -- the same window is searched
  have watched : commands.watched.click locator parameters = throw e := click_of_error h
  have unfound {element : ε} : s.result (commands.findElement locator) ≠ .ok element := by
    rw [result_findElement, h]
    exact nofun
  refine ⟨?_, fun e' he => ?_, ?_, ?_, ?_⟩
  · rw [click, watched]
    exact .throw s e
  · cases (result_findElement.trans h).symm.trans he
    rw [click]
    exact ⟨rfl, rfl, rfl⟩
  all_goals exact fun element found => absurd found unfound

theorem exists_clickMakes_of_element (h : commands.element locator = .ok element) :
    ∃ made, commands.ClickMakes locator parameters s made := by
  let calls := commands.host.clickCalls element (.parse parameters)
  have click : commands.click locator parameters = commands.host.inputAll calls := click_of_element h
  have watched : commands.watched.click locator parameters = commands.host.watched.inputAll calls :=
    click_of_element h
  have same {other : ε} (found : s.result (commands.findElement locator) = .ok other) :
      other = element := by
    rw [result_findElement, h] at found
    exact (Except.ok.inj found).symm
  obtain ⟨made, written, stops⟩ := commands.host.exists_makes_inputAll s calls
  have accepted := stops.accepted_iff
  rw [← click] at written stops accepted
  rw [← watched] at written
  refine ⟨made, written, fun e he => ?_, ?_, ?_, ?_⟩
  · rw [result_findElement, h] at he
    cases he
  all_goals
    rintro other found
    obtain rfl := same found
  · exact stops.made_isPrefix
  · exact stops
  · exact accepted

theorem exists_clickMakes (commands : Commands σ ν ε) (locator parameters : String) (s : Session σ) :
    ∃ made, commands.ClickMakes locator parameters s made := by
  cases h : commands.element locator with
  | error e => exact ⟨[], clickMakes_of_error h⟩
  | ok element => exact exists_clickMakes_of_element h

end Commands

theorem Snapshot.isSome_nodeForElement? {snapshot : Snapshot} {node : NodeId} {element : String}
    (h : snapshot.elementOf node = some element) : (snapshot.nodeForElement? element).isSome = true := by
  obtain ⟨found, hn, he⟩ := Option.bind_eq_some_iff.mp h
  rw [nodeForElement?, Array.findIdx?_isSome, Array.any_eq_true']
  exact ⟨found, Array.mem_of_getElem? hn, beq_iff_eq.mpr he⟩

namespace RecordingHost

variable {host : RecordingHost} {configuration : Configuration} {s : Session Recording}
  {locator element : String}

theorem hasElement_of_node {node : NodeId} (h : host.snapshot.elementOf node = some element) :
    host.hasElement element = true :=
  Bool.or_eq_true_iff.mpr (.inr (Snapshot.isSome_nodeForElement? h))

theorem hasElement_of_native (h : host.snapshot.locateNative locator = .ok (some element)) :
    host.hasElement element = true := by
  unfold Snapshot.locateNative at h
  split at h
  next =>
    cases h
    rfl
  next =>
    split at h
    next id _ =>
      obtain ⟨node, hn, rfl⟩ := Option.map_eq_some_iff.mp (Except.ok.inj h)
      exact Bool.or_eq_true_iff.mpr (.inr (Option.isSome_of_eq_some hn))
    next => cases h

/-- Whatever a locator leads to in a snapshot is the document or renders one of its nodes. -/
theorem hasElement_of_element (h : (host.commands configuration).element locator = .ok element) :
    host.hasElement element = true := by
  let dispatcher := (host.commands configuration).dispatcher
  have found : dispatcher.findElement locator = .ok (some element) := by
    unfold Commands.element at h
    split at h
    next hf => rwa [← Except.ok.inj h]
    next => cases h
    next => cases h
  have shown {widget : Option NodeId} (he : dispatcher.elementOf? widget = some element) :
      host.hasElement element = true := by
    obtain ⟨node, _, he⟩ := Option.bind_eq_some_iff.mp he
    exact hasElement_of_node he
  cases read : Locator.parse locator with
  | error e => cases (Dispatcher.findElement_of_unread read).symm.trans found
  | ok parsed =>
    cases parsed with
    | native native =>
      exact hasElement_of_native ((Dispatcher.findElement_of_native read).symm.trans found)
    | qx parsed =>
      cases parsed with
      | tagXPath path xpath =>
        -- a snapshot has no document in which an XPath could be followed
        rw [Dispatcher.findElement_tagXPath read] at found
        split at found
        all_goals cases found
      | tag path | tagObject path | hierarchy root path =>
        rw [Dispatcher.findElement_of_object read (fun _ _ => nofun)] at found
        obtain ⟨widget, _, he⟩ := exists_of_map_eq_ok found
        exact shown he

variable {call : InputCall String} {calls : List (InputCall String)} {parameters : MouseParameters}

theorem input_known (known : host.hasElement call.element = true) :
    host.Delivers (host.eventHost.input call) (.ok ()) [call.recorded] := by
  cases call with
  | focus element => exact focus_known known
  | dispatch element event => exact dispatch_known known
  | fire element handler event => exact fire_known known

theorem inputAll_known (known : ∀ call ∈ calls, host.hasElement call.element = true) :
    host.Delivers (host.eventHost.inputAll calls) (.ok ()) (calls.map InputCall.recorded) := by
  induction calls with
  | nil => exact .pure ()
  | cons call calls ih =>
    obtain ⟨first, rest⟩ := List.forall_mem_cons.mp known
    exact (input_known first).bind (ih rest)

theorem element_of_mem_clickCalls {σ ν ε : Type} {host : EventHost σ ν ε} {element : ε}
    {call : InputCall ε} (h : call ∈ host.clickCalls element parameters) :
    call.element = element := by
  have mouse (event : MouseEvent) : (InputCall.ofMouse host.model element event).element = element := by
    unfold InputCall.ofMouse
    cases host.model <;> rfl
  rcases List.mem_cons.mp h with rfl | h
  · rfl
  · obtain ⟨eventType, _, rfl⟩ := List.mem_map.mp h
    exact mouse _

/-- A click on an element that was found delivers all of its events. -/
theorem click_delivers (text : String)
    (h : (host.commands configuration).element locator = .ok element) :
    host.Delivers ((host.commands configuration).click locator text) (.ok ())
      ((host.eventHost.clickCalls element (.parse text)).map InputCall.recorded) := by
  have known : host.hasElement element = true := hasElement_of_element h
  rw [Commands.click_of_element h]
  exact inputAll_known fun call hc => by rwa [element_of_mem_clickCalls hc]

end RecordingHost

/-- A click on any host stops at the first call that is rejected, and does nothing if its element is
not found. A recording host rejects a click exactly if no element is found, and records all events of
every other click. -/
theorem click_stops_at_rejection :
    (∀ {σ ν ε : Type} [DecidableEq ν] (commands : Commands σ ν ε) (locator parameters : String)
      (s : Session σ), ∃ made, commands.ClickMakes locator parameters s made) ∧
    ∀ (host : RecordingHost) (configuration : Configuration) (locator parameters : String)
      (s : Session Recording),
      let commands := host.commands configuration
      (∀ e, s.result (commands.click locator parameters) = .error e ↔
        s.result (commands.findElement locator) = .error e) ∧
      ∀ element, s.result (commands.findElement locator) = .ok element →
        host.hasElement element = true ∧
        s.result (commands.click locator parameters) = .ok () ∧
        (s.after (commands.click locator parameters)).host.events = s.host.events ++
          (host.eventHost.clickCalls element (.parse parameters)).map InputCall.recorded := by
  refine ⟨Commands.exists_clickMakes, fun host configuration locator parameters s => ?_⟩
  intro commands
  rw [Commands.result_findElement]
  cases h : commands.element locator with
  | error e =>
    have rejected : s.result (commands.click locator parameters) = .error e := by
      rw [Commands.click_of_error h]
      rfl
    rw [rejected]
    exact ⟨fun _ => by simp, nofun⟩
  | ok element =>
    obtain ⟨accepted, session⟩ := RecordingHost.click_delivers parameters h s
    rw [accepted, session, RecordingHost.events_deliver_all]
    refine ⟨fun e => ⟨nofun, nofun⟩, ?_⟩
    rintro _ ⟨⟩
    exact ⟨RecordingHost.hasElement_of_element h, rfl, rfl⟩

/-- Takes an input call if there is one left to take, and rejects it otherwise. -/
def takeCall : SessionM Nat Unit := do
  let s ← get
  match s.host with
  | 0 => throw (.eventDispatch (.unknownElement "gone"))
  | left + 1 => set { s with host := left }

/-- A host that takes as many input calls as its state says. -/
def tiringHost : EventHost Nat NodeId String where
  window := RecordingHost.withDocumentWidget.snapshot.window
  model := .legacy
  dispatch _ _ := takeCall
  fire _ _ _ := takeCall
  focus _ := takeCall
  clientPosition _ := return (0, 0)
  execute _ := return false
  listen _ _ := return

theorem click_stops_at_rejection_third :
    let event (eventType : String) : MouseEvent := .of eventType (.parse "button=right") .legacy
    let tiring : Commands Nat NodeId String := ⟨tiringHost, .standard⟩
    let s : Session Nat := ⟨2, ⟨.empty, []⟩⟩
    let recording := RecordingHost.withDocumentWidget.commands .standard
    let start : Session Recording := ⟨.empty, ⟨.empty, []⟩⟩
    tiring.ClickMakes "id=document" "button=right" s [.focus "document",
        .fire "document" "onmouseover" (event "mouseover"),
        .fire "document" "onmousedown" (event "mousedown")] ∧
      s.result (tiring.click "id=document" "button=right") =
        .error (.eventDispatch (.unknownElement "gone")) ∧
      start.result (recording.click "id=document" "button=right") = .ok () ∧
      (start.after (recording.click "id=document" "button=right")).host.events =
        .focus "document" :: clickSequence.map fun eventType =>
          .legacy "document" ("on" ++ eventType) (event eventType) := by
  intro event tiring s recording start
  obtain ⟨made, makes⟩ := click_stops_at_rejection.1 tiring "id=document" "button=right" s
  have log : made = [.focus "document", .fire "document" "onmouseover" (event "mouseover"),
      .fire "document" "onmousedown" (event "mousedown")] := by
    have written := congrArg (·.host.2) (makes.written []).2
    exact written.symm.trans (by decide +kernel)
  have found : start.result (recording.findElement "id=document") = .ok "document" := by
    decide +kernel
  obtain ⟨-, accepted, events⟩ := (click_stops_at_rejection.2 RecordingHost.withDocumentWidget .standard
    "id=document" "button=right" start).2 "document" found
  exact ⟨log ▸ makes, by decide +kernel, accepted, events⟩

end WidgetLocator
