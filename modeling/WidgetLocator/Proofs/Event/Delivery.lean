import WidgetLocator.Event.Recording

namespace WidgetLocator

section Calls

variable {σ α β : Type}

/-- What a call comes to in a session. -/
def Session.result (s : Session σ) (call : SessionM σ α) : Except Error α :=
  (call.run.run s).1

/-- The session that a call leaves. -/
def Session.after (s : Session σ) (call : SessionM σ α) : Session σ :=
  (call.run.run s).2

variable {s : Session σ} {call : SessionM σ α} {a : α} {e : Error}

theorem Session.bind_of_ok (next : α → SessionM σ β) (h : s.result call = .ok a) :
    s.result (call >>= next) = (s.after call).result (next a) ∧
      s.after (call >>= next) = (s.after call).after (next a) := by
  unfold result at h
  simp only [result, after, ExceptT.run_bind, StateT.run_bind]
  generalize call.run.run s = outcome at h ⊢
  obtain ⟨result, left⟩ := outcome
  cases h
  exact ⟨rfl, rfl⟩

theorem Session.bind_of_error (next : α → SessionM σ β) (h : s.result call = .error e) :
    s.result (call >>= next) = .error e ∧ s.after (call >>= next) = s.after call := by
  unfold result at h
  simp only [result, after, ExceptT.run_bind, StateT.run_bind]
  generalize call.run.run s = outcome at h ⊢
  obtain ⟨result, left⟩ := outcome
  cases h
  exact ⟨rfl, rfl⟩

end Calls

/-- The element that is clicked, and the click, if an event is one. -/
def RecordedEvent.click? : RecordedEvent → Option (String × MouseEvent)
  | mouse element event => if event.eventType = "click" then some (element, event) else none
  | legacy element handler event => if handler = "onclick" then some (element, event) else none
  | _ => none

namespace RecordingHost

variable (host : RecordingHost)

/-- A session after a click: the listeners on the element have been run and let go. -/
def clicked (element : String) (click : MouseEvent) (s : Session Recording) : Session Recording where
  host := { s.host with listeners := s.host.listeners.filter (·.1 ≠ element) }
  notes := (s.host.listeners.filter (·.1 = element)).foldl
    (fun notes waiting => waiting.2 (host.observe click) notes) s.notes

/-- A session after an event. -/
def deliver (s : Session Recording) (event : RecordedEvent) : Session Recording :=
  let recorded := { s with host := { s.host with events := s.host.events ++ [event] } }
  match event.click? with
  | some (element, click) => host.clicked element click recorded
  | none => recorded

/-- In every session a call has the same result and delivers the same events. -/
def Delivers {α : Type} (call : SessionM Recording α) (result : Except Error α)
    (events : List RecordedEvent) : Prop :=
  ∀ s : Session Recording, s.result call = result ∧ s.after call = events.foldl host.deliver s

variable {host} {α β : Type} {s : Session Recording}

theorem deliver_of_click {event : RecordedEvent} {element : String} {click : MouseEvent}
    (hc : event.click? = some (element, click)) :
    host.deliver s event = host.clicked element click
      { s with host := { s.host with events := s.host.events ++ [event] } } := by
  simp only [deliver, hc]

theorem deliver_of_no_click {event : RecordedEvent} (hc : event.click? = none) :
    host.deliver s event = { s with host := { s.host with events := s.host.events ++ [event] } } := by
  simp only [deliver, hc]

theorem events_deliver (event : RecordedEvent) :
    (host.deliver s event).host.events = s.host.events ++ [event] := by
  cases hc : event.click? with
  | none => rw [deliver_of_no_click hc]
  | some click => rw [deliver_of_click hc]; rfl

theorem events_deliver_all (events : List RecordedEvent) :
    (events.foldl host.deliver s).host.events = s.host.events ++ events := by
  induction events generalizing s with
  | nil => exact (List.append_nil _).symm
  | cons event rest ih => rw [List.foldl_cons, ih, events_deliver, List.append_assoc]; rfl

theorem Delivers.pure (a : α) : host.Delivers (Pure.pure a) (.ok a) [] :=
  fun _ => ⟨rfl, rfl⟩

theorem Delivers.throw (e : Error) :
    host.Delivers (MonadExcept.throw e : SessionM Recording α) (.error e) [] :=
  fun _ => ⟨rfl, rfl⟩

section Bind

variable {call : SessionM Recording α} {next : α → SessionM Recording β} {events : List RecordedEvent}

theorem Delivers.bind {a : α} {result : Except Error β} {later : List RecordedEvent}
    (hc : host.Delivers call (.ok a) events) (hn : host.Delivers (next a) result later) :
    host.Delivers (call >>= next) result (events ++ later) := by
  intro s
  obtain ⟨hr, ha⟩ := hc s
  obtain ⟨hr', ha'⟩ := hn (s.after call)
  obtain ⟨hb, hb'⟩ := Session.bind_of_ok next hr
  rw [hb, hb', hr', ha', ha, List.foldl_append]
  exact ⟨rfl, rfl⟩

theorem Delivers.bind_error {e : Error} (hc : host.Delivers call (.error e) events) :
    host.Delivers (call >>= next) (.error e) events := by
  intro s
  obtain ⟨hr, ha⟩ := hc s
  obtain ⟨hb, hb'⟩ := Session.bind_of_error next hr
  exact ⟨hb, hb'.trans ha⟩

end Bind

section Operations

variable {element handler : String} {event : MouseEvent}

theorem after_notify : s.after (host.notify element event) = host.clicked element event s := by
  let waitsHere : String × ClickListener → Bool := fun waiting => waiting.1 == element
  have notified : s.after (host.notify element event) =
      ⟨{ s.host with listeners := (s.host.listeners.partition waitsHere).2 },
        (s.host.listeners.partition waitsHere).1.foldl
          (fun notes waiting => waiting.2 (host.observe event) notes) s.notes⟩ := rfl
  have kept : (not ∘ waitsHere) = fun waiting => decide (waiting.1 ≠ element) := by
    funext waiting
    exact (decide_not (p := waiting.1 = element)).symm
  rw [notified, List.partition_eq_filter_filter, kept]
  rfl

theorem requires_known (known : host.hasElement element = true) :
    host.Delivers (host.requireElement element) (.ok ()) [] := by
  rw [requireElement, if_pos known]
  exact .pure ()

theorem requires_unknown (unknown : host.hasElement element = false) :
    host.Delivers (host.requireElement element) (.error (.eventDispatch (.unknownElement element)))
      [] := by
  rw [requireElement, if_neg (by simp [unknown])]
  exact .throw _

theorem records_click {recorded : RecordedEvent} (hc : recorded.click? = some (element, event)) :
    host.Delivers (do record recorded; host.notify element event) (.ok ()) [recorded] := by
  intro s
  refine ⟨rfl, ?_⟩
  rw [List.foldl_cons, List.foldl_nil, deliver_of_click hc]
  exact after_notify

theorem records {recorded : RecordedEvent} (hc : recorded.click? = none) :
    host.Delivers (record recorded) (.ok ()) [recorded] := by
  intro s
  refine ⟨rfl, ?_⟩
  rw [List.foldl_cons, List.foldl_nil, deliver_of_no_click hc]
  rfl

theorem dispatch_known (known : host.hasElement element = true) :
    host.Delivers (host.dispatch element event) (.ok ()) [.mouse element event] := by
  refine Delivers.bind (requires_known known) ?_
  by_cases hc : event.eventType = "click"
  · rw [if_pos hc]
    exact records_click (if_pos hc)
  · have unheard : (RecordedEvent.mouse element event).click? = none := if_neg hc
    rw [if_neg hc]
    exact Delivers.bind (records unheard) (.pure ())

theorem fire_known (known : host.hasElement element = true) :
    host.Delivers (host.fire element handler event) (.ok ()) [.legacy element handler event] := by
  refine Delivers.bind (requires_known known) ?_
  by_cases hc : handler = "onclick"
  · rw [if_pos hc]
    exact records_click (if_pos hc)
  · have unheard : (RecordedEvent.legacy element handler event).click? = none := if_neg hc
    rw [if_neg hc]
    exact Delivers.bind (records unheard) (.pure ())

theorem focus_known (known : host.hasElement element = true) :
    host.Delivers (host.focus element) (.ok ()) [.focus element] :=
  Delivers.bind (requires_known known) (records rfl)

theorem clientPosition_known (known : host.hasElement element = true) :
    host.Delivers (host.clientPosition element) (.ok ((host.positions.get? element).getD (0, 0))) [] :=
  Delivers.bind (requires_known known) (.pure _)

/-- Executing a widget is never rejected, and is recorded if it can be executed. -/
theorem execute_delivers (host : RecordingHost) (element : String) : host.Delivers (host.execute element)
    (.ok ((host.snapshot.nodeForElement? element).any host.snapshot.isExecutable))
    (if (host.snapshot.nodeForElement? element).any host.snapshot.isExecutable then
      [.execute element] else []) := by
  unfold execute
  by_cases hx : (host.snapshot.nodeForElement? element).any host.snapshot.isExecutable = true
  · rw [if_pos hx, if_pos hx, hx]
    exact Delivers.bind (records rfl) (.pure true)
  · rw [if_neg hx, if_neg hx, Bool.eq_false_iff.mpr hx]
    exact .pure false

end Operations

/-- A call does nothing but deliver events, the same ones in every session. -/
def OnlyDelivers (host : RecordingHost) (call : SessionM Recording α) : Prop :=
  ∃ result events, host.Delivers call result events

theorem OnlyDelivers.bind {call : SessionM Recording α} {next : α → SessionM Recording β}
    (hc : host.OnlyDelivers call) (hn : ∀ a, host.OnlyDelivers (next a)) :
    host.OnlyDelivers (call >>= next) := by
  obtain ⟨result, events, hc⟩ := hc
  cases result with
  | error e => exact ⟨_, _, hc.bind_error⟩
  | ok a =>
    obtain ⟨later, more, hn⟩ := hn a
    exact ⟨_, _, hc.bind hn⟩

theorem OnlyDelivers.pure (a : α) : host.OnlyDelivers (Pure.pure a) :=
  ⟨_, _, .pure a⟩

end RecordingHost
end WidgetLocator
