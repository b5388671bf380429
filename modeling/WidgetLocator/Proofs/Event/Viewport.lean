import WidgetLocator.Commands
import WidgetLocator.Proofs.Event.Listeners

namespace WidgetLocator

/-- A command of a test. -/
inductive CommandCall where
  | findElement (locator : String)
  | click (locator parameters : String)
  | clickAt (locator parameters : String)
  | execute (locator : String)
  | isEnabled (locator : String)
  | getViewport
deriving DecidableEq

namespace Commands

variable {σ ν ε : Type} [DecidableEq ν] (commands : Commands σ ν ε)

/-- Performs a command, whatever it returns. -/
def perform : CommandCall → SessionM σ Unit
  | .findElement locator => do let _ ← commands.findElement locator
  | .click locator parameters => commands.click locator parameters
  | .clickAt locator parameters => commands.clickAt locator parameters
  | .execute locator => commands.execute locator
  | .isEnabled locator => do let _ ← commands.isEnabled locator
  | .getViewport => commands.getViewport

/-- The session after some commands. -/
def run (calls : List CommandCall) (s : Session σ) : Session σ :=
  calls.foldl (fun s call => s.after (commands.perform call)) s

end Commands

namespace RecordingHost

variable (host : RecordingHost)

/-- The commands of a test on a recording host. -/
def commands (configuration : Configuration) : Commands Recording NodeId String :=
  ⟨host.eventHost, configuration⟩

/-- The click on the document, if an event is one. -/
def documentClick? (event : RecordedEvent) : Option MouseEvent :=
  event.click?.bind fun (element, click) =>
    if element = Snapshot.documentElement then some click else none

/-- The viewport as it is noted at a click. -/
def viewportAt (click : MouseEvent) : String :=
  (ViewportGeometry.ofClick (host.observe click)).text

/-- A session in which a check of the viewport has begun. -/
def beginCheck (s : Session Recording) : Session Recording where
  host := { s.host with
    listeners := s.host.listeners ++ [(Snapshot.documentElement, Commands.noteViewport)] }
  notes := { s.notes with stored := s.notes.stored.erase viewportVariable }

variable {host} {configuration : Configuration} {s : Session Recording}

section Commands

theorem onlyDelivers_clientPosition (element : String) :
    host.OnlyDelivers (host.clientPosition element) := by
  cases known : host.hasElement element with
  | true => exact ⟨_, _, clientPosition_known known⟩
  | false => exact ⟨_, _, (requires_unknown known).bind_error⟩

theorem onlyDelivers_trigger (eventType element : String) (parameters : MouseParameters) :
    host.OnlyDelivers (host.eventHost.trigger eventType element parameters) := by
  have dispatched (event : MouseEvent) : host.OnlyDelivers (host.perform (.dispatch element event)) :=
    onlyDelivers_perform rfl
  have fired (event : MouseEvent) :
      host.OnlyDelivers (host.perform (.fire element ("on" ++ eventType) event)) :=
    onlyDelivers_perform rfl
  unfold EventHost.trigger
  dsimp only
  split
  · exact dispatched _
  · exact fired _

theorem onlyDelivers_click (element : String) (parameters : MouseParameters) :
    host.OnlyDelivers (host.eventHost.click element parameters) := by
  have focused : host.OnlyDelivers (host.perform (.focus element)) := onlyDelivers_perform rfl
  refine focused.bind fun _ => ?_
  induction clickSequence with
  | nil => exact .pure ()
  | cons eventType eventTypes ih =>
    exact (onlyDelivers_trigger eventType element parameters).bind fun _ => ih

theorem onlyDelivers_findElement (locator : String) :
    host.OnlyDelivers ((host.commands configuration).findElement locator) := by
  unfold Commands.findElement
  cases (host.commands configuration).element locator with
  | ok found => exact .pure found
  | error e => exact ⟨_, _, .throw e⟩

theorem onlyDelivers_clickAt (locator parameters : String) :
    host.OnlyDelivers ((host.commands configuration).clickAt locator parameters) :=
  (onlyDelivers_findElement locator).bind fun element =>
    (onlyDelivers_clientPosition element).bind fun _ => onlyDelivers_click element _

/-- A command that does not check the viewport only delivers events. -/
theorem onlyDelivers_command (host : RecordingHost) (configuration : Configuration)
    {call : CommandCall} (h : call ≠ .getViewport) :
    host.OnlyDelivers ((host.commands configuration).perform call) := by
  cases call with
  | findElement locator => exact (onlyDelivers_findElement locator).bind fun _ => .pure ()
  | click locator parameters =>
    exact (onlyDelivers_findElement locator).bind fun element => onlyDelivers_click element _
  | clickAt locator parameters => exact onlyDelivers_clickAt locator parameters
  | execute locator =>
    have executed (element : String) : host.OnlyDelivers (host.perform (.execute element)) :=
      onlyDelivers_perform rfl
    exact (onlyDelivers_findElement locator).bind executed
  | isEnabled locator =>
    refine OnlyDelivers.bind ?_ fun _ => .pure ()
    unfold Commands.isEnabled
    split
    · exact .pure _
    · exact ⟨_, _, .throw _⟩
  | getViewport => exact absurd rfl h

theorem findElement_document : (host.commands configuration).findElement documentLocator =
    pure Snapshot.documentElement := by
  have element : (host.commands configuration).element documentLocator =
      .ok Snapshot.documentElement := by
    have parsed : Locator.parse documentLocator = .ok (.native documentLocator) := rfl
    have found : host.snapshot.locateNative documentLocator = .ok (some Snapshot.documentElement) :=
      if_pos rfl
    have located : (host.commands configuration).dispatcher.findElement documentLocator =
        host.snapshot.locateNative documentLocator := by
      rw [Dispatcher.findElement, parsed]
      rfl
    rw [Commands.element, located, found]
  rw [Commands.findElement, element]

/-- A check of the viewport begins, and may make a click. -/
theorem after_getViewport (host : RecordingHost) (configuration : Configuration) :
    ∃ events, ∀ s : Session Recording, s.after (host.commands configuration).getViewport =
      List.foldl host.deliver (beginCheck s) events := by
  have rest : host.OnlyDelivers (if (host.commands configuration).configuration.viewportByHand then
      pure () else (host.commands configuration).clickAt documentLocator "clientX=0,clientY=0") := by
    split
    · exact .pure ()
    · exact onlyDelivers_clickAt _ _
  obtain ⟨result, events, delivers⟩ := rest
  refine ⟨events, fun s => ?_⟩
  rw [← (delivers (beginCheck s)).2, Commands.getViewport, findElement_document, pure_bind]
  -- the variable is erased and the listener is left before anything is delivered
  let erased : Session Recording :=
    { s with notes := { s.notes with stored := s.notes.stored.erase viewportVariable } }
  have waits : host.listens? (.listen Snapshot.documentElement Commands.noteViewport) =
      some (Snapshot.documentElement, Commands.noteViewport) := rfl
  have listened := perform_listens (s := erased) waits
  refine (Session.bind_of_ok _ rfl).2.trans ((Session.bind_of_ok _ listened.1).2.trans ?_)
  rw [listened.2]
  rfl

end Commands

section Clicks

/-- Only checks of the viewport are waiting, all of them at the document. -/
def OnlyChecks (s : Session Recording) : Prop :=
  ∀ waiting ∈ s.host.listeners, waiting = (Snapshot.documentElement, Commands.noteViewport)

variable {event : RecordedEvent} {click : MouseEvent} {delivered events : List RecordedEvent}
  {name : String}

theorem documentClick?_eq_some : documentClick? event = some click ↔
    event.click? = some (Snapshot.documentElement, click) := by
  unfold documentClick?
  cases event.click? with
  | none => simp
  | some clicked =>
    obtain ⟨element, seen⟩ := clicked
    simp [Prod.ext_iff]

theorem get?_noteViewport (observed : ClickObservation) (notes : Notes) :
    (Commands.noteViewport observed notes).stored.get? name =
      if name = viewportVariable then some (ViewportGeometry.ofClick observed).text
      else notes.stored.get? name :=
  Table.get?_insert ..

/-- Several checks note the same at a click. -/
theorem get?_foldl_noteViewport (name : String) {waiting : List (String × ClickListener)}
    (h : ∀ w ∈ waiting, w = (Snapshot.documentElement, Commands.noteViewport))
    (observed : ClickObservation) (notes : Notes) :
    (waiting.foldl (fun notes w => w.2 observed notes) notes).stored.get? name =
      if name = viewportVariable ∧ waiting ≠ [] then some (ViewportGeometry.ofClick observed).text
      else notes.stored.get? name := by
  induction waiting generalizing notes with
  | nil => simp
  | cons w rest ih =>
    obtain ⟨rfl, hr⟩ := List.forall_mem_cons.mp h
    rw [List.foldl_cons, ih hr, get?_noteViewport]
    grind

theorem deliver_of_other (checks : OnlyChecks s) (h : documentClick? event = none) :
    (host.deliver s event).host.listeners = s.host.listeners ∧
      (host.deliver s event).notes = s.notes := by
  cases hc : event.click? with
  | none =>
    rw [deliver_of_no_click hc]
    exact ⟨rfl, rfl⟩
  | some clicked =>
    obtain ⟨element, click⟩ := clicked
    have other : element ≠ Snapshot.documentElement := by
      rintro rfl
      rw [documentClick?_eq_some.mpr hc] at h
      cases h
    have elsewhere : ∀ waiting ∈ s.host.listeners, waiting.1 ≠ element := by
      intro waiting hw
      rw [checks waiting hw]
      exact other.symm
    have kept : s.host.listeners.filter (·.1 ≠ element) = s.host.listeners :=
      List.filter_eq_self.mpr fun waiting hw => decide_eq_true (elsewhere waiting hw)
    have fired : s.host.listeners.filter (·.1 = element) = [] :=
      List.filter_eq_nil_iff.mpr fun waiting hw => by simpa using elsewhere waiting hw
    rw [deliver_of_click hc]
    refine ⟨kept, ?_⟩
    exact congrArg (List.foldl _ s.notes) fired

theorem deliver_of_documentClick (host : RecordingHost) (checks : OnlyChecks s)
    (h : documentClick? event = some click) :
    (host.deliver s event).host.listeners = [] ∧ ∀ name,
      (host.deliver s event).notes.stored.get? name =
        if name = viewportVariable ∧ s.host.listeners ≠ [] then some (host.viewportAt click)
        else s.notes.stored.get? name := by
  have here : ∀ waiting ∈ s.host.listeners, waiting.1 = Snapshot.documentElement := by
    intro waiting hw
    rw [checks waiting hw]
  have kept : s.host.listeners.filter (·.1 ≠ Snapshot.documentElement) = [] :=
    List.filter_eq_nil_iff.mpr fun waiting hw => by simpa using here waiting hw
  have fired : s.host.listeners.filter (·.1 = Snapshot.documentElement) = s.host.listeners :=
    List.filter_eq_self.mpr fun waiting hw => decide_eq_true (here waiting hw)
  rw [deliver_of_click (documentClick?_eq_some.mp h)]
  refine ⟨kept, fun name => ?_⟩
  have noted := get?_foldl_noteViewport name checks (host.observe click) s.notes
  exact (congrArg (fun waiting => (List.foldl _ s.notes waiting).stored.get? name) fired).trans noted

theorem onlyChecks_deliver (checks : OnlyChecks s) (event : RecordedEvent) :
    OnlyChecks (host.deliver s event) := by
  intro waiting hw
  cases hc : documentClick? event with
  | none =>
    rw [(deliver_of_other checks hc).1] at hw
    exact checks waiting hw
  | some click =>
    rw [(host.deliver_of_documentClick checks hc).1] at hw
    cases hw

/-- No event changes another variable. -/
theorem get?_deliver (checks : OnlyChecks s) (event : RecordedEvent) (h : name ≠ viewportVariable) :
    (host.deliver s event).notes.stored.get? name = s.notes.stored.get? name := by
  cases hc : documentClick? event with
  | none => rw [(deliver_of_other checks hc).2]
  | some click =>
    obtain ⟨-, noted⟩ := host.deliver_of_documentClick checks hc
    rw [noted, if_neg fun both => h both.1]

end Clicks

section Checks

variable {event : RecordedEvent} {delivered events : List RecordedEvent} {name : String}

/-- What follows the beginning of a check: the viewport is noted at the first click on the document,
and until then it is not known and a listener is waiting. -/
structure Checking (host : RecordingHost) (delivered : List RecordedEvent) (s : Session Recording) :
    Prop where
  checks : OnlyChecks s
  noted : s.notes.stored.get? viewportVariable =
    (delivered.findSome? documentClick?).map host.viewportAt
  waits : s.host.listeners = [] ↔ (delivered.findSome? documentClick?).isSome

theorem onlyChecks_beginCheck (checks : OnlyChecks s) : OnlyChecks (beginCheck s) := by
  intro waiting hw
  rcases List.mem_append.mp hw with hw | hw
  · exact checks waiting hw
  · exact List.mem_singleton.mp hw

theorem checking_beginCheck (checks : OnlyChecks s) : host.Checking [] (beginCheck s) where
  checks := onlyChecks_beginCheck checks
  noted := (Table.get?_erase ..).trans (if_pos rfl)
  waits := by simp [beginCheck]

theorem Checking.deliver (h : host.Checking delivered s) (event : RecordedEvent) :
    host.Checking (delivered ++ [event]) (host.deliver s event) := by
  have first : (delivered ++ [event]).findSome? documentClick? =
      (delivered.findSome? documentClick?).or (documentClick? event) := by
    rw [List.findSome?_append, List.findSome?_singleton]
  have still : OnlyChecks (host.deliver s event) := onlyChecks_deliver h.checks event
  cases hc : documentClick? event with
  | none =>
    obtain ⟨listeners, notes⟩ := deliver_of_other h.checks hc
    rw [hc, Option.or_none] at first
    exact ⟨still, by rw [first, notes, h.noted], by rw [first, listeners, h.waits]⟩
  | some click =>
    obtain ⟨gone, noted⟩ := host.deliver_of_documentClick h.checks hc
    rw [hc] at first
    refine ⟨still, ?_, by simp [first, gone]⟩
    rw [first, noted, h.noted]
    cases seen : delivered.findSome? documentClick? with
    | none =>
      have waiting : s.host.listeners ≠ [] := fun none => by
        have some_seen := h.waits.mp none
        rw [seen] at some_seen
        cases some_seen
      rw [if_pos ⟨rfl, waiting⟩]
      rfl
    | some earlier =>
      have gone : s.host.listeners = [] := h.waits.mpr (by rw [seen]; rfl)
      rw [if_neg fun both => both.2 gone]
      rfl

theorem Checking.deliver_all (h : host.Checking delivered s) (events : List RecordedEvent) :
    host.Checking (delivered ++ events) (events.foldl host.deliver s) := by
  induction events generalizing delivered s with
  | nil => rwa [List.append_nil]
  | cons event rest ih =>
    rw [List.append_cons]
    exact ih (h.deliver event)

end Checks

section Runs

variable {calls earlier later : List CommandCall} {name : String}

/-- Only checks are waiting, and all variables but the viewport are as they were noted. -/
def Undisturbed (notes : Notes) (s : Session Recording) : Prop :=
  OnlyChecks s ∧ ∀ name, name ≠ viewportVariable → s.notes.stored.get? name = notes.stored.get? name

theorem Undisturbed.deliver_all {notes : Notes} (h : Undisturbed notes s)
    (events : List RecordedEvent) : Undisturbed notes (events.foldl host.deliver s) := by
  induction events generalizing s with
  | nil => exact h
  | cons event rest ih =>
    exact ih ⟨onlyChecks_deliver h.1 event, fun name hn =>
      (get?_deliver h.1 event hn).trans (h.2 name hn)⟩

theorem Undisturbed.beginCheck {notes : Notes} (h : Undisturbed notes s) :
    Undisturbed notes (beginCheck s) :=
  ⟨onlyChecks_beginCheck h.1, fun name hn => by
    rw [← h.2 name hn]
    exact (Table.get?_erase ..).trans (if_neg hn)⟩

theorem undisturbed_command {notes : Notes} (h : Undisturbed notes s) (call : CommandCall) :
    Undisturbed notes (s.after ((host.commands configuration).perform call)) := by
  by_cases hc : call = .getViewport
  · obtain ⟨events, after⟩ := after_getViewport host configuration
    rw [hc, Commands.perform, after]
    exact h.beginCheck.deliver_all events
  · obtain ⟨result, events, delivers⟩ := host.onlyDelivers_command configuration hc
    rw [(delivers s).2]
    exact h.deliver_all events

theorem undisturbed_run {notes : Notes} (h : Undisturbed notes s) (calls : List CommandCall) :
    Undisturbed notes ((host.commands configuration).run calls s) := by
  induction calls generalizing s with
  | nil => exact h
  | cons call rest ih => exact ih (undisturbed_command h call)

theorem exists_events_of_run (host : RecordingHost) (configuration : Configuration)
    (h : CommandCall.getViewport ∉ later) : ∃ events, ∀ s : Session Recording,
      (host.commands configuration).run later s = List.foldl host.deliver s events := by
  induction later with
  | nil => exact ⟨[], fun s => rfl⟩
  | cons call rest ih =>
    obtain ⟨hne, hr⟩ := List.ne_and_not_mem_of_not_mem_cons h
    obtain ⟨result, events, delivers⟩ := host.onlyDelivers_command configuration (Ne.symm hne)
    obtain ⟨more, run⟩ := ih hr
    refine ⟨events ++ more, fun s => ?_⟩
    rw [List.foldl_append, ← (delivers s).2]
    exact run _

/-- The run since the last check. -/
theorem checking_run (checks : OnlyChecks s) (h : CommandCall.getViewport ∉ later) :
    ∃ delivered, host.Checking delivered
        ((host.commands configuration).run (.getViewport :: later) s) ∧
      ((host.commands configuration).run (.getViewport :: later) s).host.events =
        s.host.events ++ delivered := by
  obtain ⟨first, after⟩ := after_getViewport host configuration
  obtain ⟨more, run⟩ := host.exists_events_of_run configuration h
  have whole : (host.commands configuration).run (.getViewport :: later) s =
      (first ++ more).foldl host.deliver (beginCheck s) := by
    rw [List.foldl_append, ← after, ← run]
    rfl
  refine ⟨first ++ more, ?_, ?_⟩
  · rw [whole]
    exact (checking_beginCheck checks).deliver_all _
  · rw [whole, events_deliver_all]
    rfl

/-- In every series of commands on a recording host without listeners, with any variables stored
before: from the first check of the viewport on, either the viewport is noted and no listener is
waiting, or it is not and some listener is. What is noted is the viewport at the first click on the
document since the last check began. No other variable is ever changed. -/
theorem viewport_noted_at_first_click (host : RecordingHost) (configuration : Configuration)
    (events : List RecordedEvent) (notes : Notes) (calls : List CommandCall) :
    let run (calls : List CommandCall) : Session Recording :=
      (host.commands configuration).run calls ⟨⟨events, []⟩, notes⟩
    (.getViewport ∈ calls →
      ((run calls).notes.stored.get? viewportVariable).isSome ∧ (run calls).host.listeners = [] ∨
      (run calls).notes.stored.get? viewportVariable = none ∧ (run calls).host.listeners ≠ []) ∧
    (∀ earlier later, calls = earlier ++ .getViewport :: later → .getViewport ∉ later →
      ∃ delivered, (run calls).host.events = (run earlier).host.events ++ delivered ∧
        (run calls).notes.stored.get? viewportVariable =
          (delivered.findSome? documentClick?).map host.viewportAt) ∧
    ∀ name, name ≠ viewportVariable →
      (run calls).notes.stored.get? name = notes.stored.get? name := by
  intro run
  have start : Undisturbed notes (⟨⟨events, []⟩, notes⟩ : Session Recording) :=
    ⟨fun _ hw => absurd hw List.not_mem_nil, fun _ _ => rfl⟩
  have since : ∀ earlier later, calls = earlier ++ .getViewport :: later → .getViewport ∉ later →
      ∃ delivered, host.Checking delivered (run calls) ∧
        (run calls).host.events = (run earlier).host.events ++ delivered := by
    rintro earlier later rfl hl
    have split : run (earlier ++ .getViewport :: later) =
        (host.commands configuration).run (.getViewport :: later) (run earlier) :=
      List.foldl_append
    rw [split]
    exact checking_run (undisturbed_run start earlier).1 hl
  refine ⟨fun checked => ?_, ?_, (undisturbed_run start calls).2⟩
  · obtain ⟨after, before, hs, hl⟩ := List.eq_append_cons_of_mem (List.mem_reverse.mpr checked)
    obtain ⟨delivered, check, -⟩ := since before.reverse after.reverse
      (by rw [← List.reverse_inj, hs]; simp) (by simpa using hl)
    rw [check.noted, Option.isSome_map, ne_eq, check.waits]
    cases delivered.findSome? documentClick? with
    | none => exact .inr ⟨rfl, by simp⟩
    | some click => exact .inl ⟨rfl, rfl⟩
  · intro earlier later hc hl
    obtain ⟨delivered, check, recorded⟩ := since earlier later hc hl
    exact ⟨delivered, recorded, check.noted⟩

/-- A snapshot with a widget whose element has the name of the document's. -/
def documentWidget : SnapshotDocument where
  location := none
  toolkit := none
  application := none
  clientDocument := none
  classes := none
  nodes := ⟨[("page", { (default : NodeDefinition) with element := some "document" })],
    List.pairwise_singleton _ _⟩

def withDocumentWidget : RecordingHost :=
  { ofSnapshot ((Snapshot.ofDocument documentWidget).toOption.get rfl) with model := .legacy }

theorem viewport_noted_at_widget_click :
    let run (calls : List CommandCall) : Session Recording :=
      (withDocumentWidget.commands .standard).run calls ⟨⟨[], []⟩, ⟨.empty, []⟩⟩
    let calls := [.getViewport, .getViewport, .click "id=document" "clientX=3"]
    (run calls).notes.stored.get? viewportVariable = some "1024x768+-3+0" ∧
      (run calls).host.listeners = [] ∧
      (∃ delivered, (run calls).host.events = (run [.getViewport]).host.events ++ delivered ∧
        (delivered.findSome? documentClick?).map withDocumentWidget.viewportAt =
          some "1024x768+-3+0") ∧
      (run calls).notes.stored.get? "other" = none := by
  intro run calls
  have all := viewport_noted_at_first_click withDocumentWidget .standard [] ⟨.empty, []⟩ calls
  have noted : (run calls).notes.stored.get? viewportVariable = some "1024x768+-3+0" := by
    decide +kernel
  obtain ⟨delivered, recorded, viewport⟩ := all.2.1 [.getViewport] [_] rfl (by decide)
  have gone : (run calls).host.listeners = [] := by
    rcases all.1 (by decide) with ⟨-, gone⟩ | ⟨unknown, -⟩
    · exact gone
    · exact absurd (unknown.symm.trans noted) (by decide)
  exact ⟨noted, gone, ⟨delivered, recorded, viewport.symm.trans noted⟩, all.2.2 "other" (by decide)⟩

end Runs

end RecordingHost
end WidgetLocator
