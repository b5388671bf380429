import Mathlib.Data.List.Basic
import WidgetLocator.Proofs.Event.Delivery

namespace WidgetLocator

/-- A call of a recording host. -/
inductive HostCall where
  | listen (element : String) (listener : ClickListener)
  | dispatch (element : String) (event : MouseEvent)
  | fire (element handler : String) (event : MouseEvent)
  | focus (element : String)
  | clientPosition (element : String)
  | execute (element : String)

def HostCall.element : HostCall → String
  | listen element _ | dispatch element _ | fire element _ _ | focus element
  | clientPosition element | execute element => element

namespace RecordingHost

variable (host : RecordingHost)

/-- Makes a call, whatever it returns. -/
def perform : HostCall → SessionM Recording Unit
  | .listen element listener => host.listen element listener
  | .dispatch element event => host.dispatch element event
  | .fire element handler event => host.fire element handler event
  | .focus element => host.focus element
  | .clientPosition element => do let _ ← host.clientPosition element
  | .execute element => do let _ ← host.execute element

/-- Whether a call is accepted. Only the execution of a widget does not need its element. -/
def accepts : HostCall → Bool
  | .execute _ => true
  | call => host.hasElement call.element

/-- The listener that a call leaves, with its element. -/
def listens? : HostCall → Option (String × ClickListener)
  | .listen element listener => if host.hasElement element then some (element, listener) else none
  | _ => none

/-- The event that a call makes. -/
def makes? : HostCall → Option RecordedEvent
  | .dispatch element event => if host.hasElement element then some (.mouse element event) else none
  | .fire element handler event =>
    if host.hasElement element then some (.legacy element handler event) else none
  | .focus element => if host.hasElement element then some (.focus element) else none
  | .execute element =>
    if (host.snapshot.nodeForElement? element).any host.snapshot.isExecutable then
      some (.execute element)
    else none
  | _ => none

variable (calls : List HostCall)

/-- The session after some of the calls, from a host without events and listeners. -/
def sessionAt (notes : Notes) (now : Nat) : Session Recording :=
  (calls.take now).foldl (fun s call => s.after (host.perform call)) ⟨.empty, notes⟩

/-- The listener that came with a call, with its element. -/
def listening? (place : Nat) : Option (String × ClickListener) :=
  calls[place]?.bind host.listens?

/-- The element that was clicked with a call, and the click. -/
def clicked? (place : Nat) : Option (String × MouseEvent) :=
  (calls[place]?.bind host.makes?).bind RecordedEvent.click?

/-- The first click on the element of a listener after the listener came. -/
def firstClick? (place : Nat) : Option Nat :=
  (host.listening? calls place).bind fun (element, _) =>
    (List.range calls.length).find? fun click =>
      place < click && (host.clicked? calls click).any (·.1 = element)

/-- The listeners that have this click as their first one, in the order in which they came. -/
def runsAt (click : Nat) : List Nat :=
  (List.range click).filter (host.firstClick? calls · = some click)

/-- The listeners that came by now and had no click, in the order in which they came. -/
def waitingAt (now : Nat) : List Nat :=
  (List.range now).filter fun place =>
    (host.listening? calls place).isSome && (host.firstClick? calls place).all (now ≤ ·)

/-- Runs a listener with what is seen of a click. -/
def runListener (click : Nat) (notes : Notes) (place : Nat) : Notes :=
  match host.listening? calls place, host.clicked? calls click with
  | some (_, listener), some (_, event) => listener (host.observe event) notes
  | _, _ => notes

variable {host calls} {s : Session Recording} {call : HostCall} {notes : Notes} {now place click : Nat}
  {element : String} {event : MouseEvent} {waiting : String × ClickListener}

section Calls

theorem perform_listens (h : host.listens? call = some waiting) :
    s.result (host.perform call) = .ok () ∧ s.after (host.perform call) =
      { s with host := { s.host with listeners := s.host.listeners ++ [waiting] } } := by
  obtain ⟨element, listener⟩ | _ | _ | _ | _ | _ := call
  case listen =>
    obtain ⟨known, same⟩ := Option.ite_some_none_eq_some.mp h
    obtain ⟨hr, ha⟩ := requires_known known s
    obtain ⟨hb, hb'⟩ := Session.bind_of_ok (fun _ => modify fun s : Session Recording =>
      { s with host := { s.host with listeners := s.host.listeners ++ [(element, listener)] } }) hr
    refine ⟨hb, hb'.trans ?_⟩
    rw [ha, ← same]
    rfl
  all_goals cases h

theorem delivers_if_known {call : SessionM Recording Unit} {event : Option RecordedEvent}
    (known : host.hasElement element = true → host.Delivers call (.ok ()) event.toList)
    (unknown : host.hasElement element = false →
      host.Delivers call (.error (.eventDispatch (.unknownElement element))) []) :
    host.Delivers call
      (if host.hasElement element then .ok () else .error (.eventDispatch (.unknownElement element)))
      (if host.hasElement element then event else none).toList := by
  cases h : host.hasElement element with
  | true => exact known h
  | false => exact unknown h

/-- A call that leaves no listener only makes its event. -/
theorem perform_delivers (h : host.listens? call = none) :
    host.Delivers (host.perform call)
      (if host.accepts call then .ok () else .error (.eventDispatch (.unknownElement call.element)))
      (host.makes? call).toList := by
  cases call with
  | listen element listener =>
    have unknown : host.hasElement element = false := by simpa [listens?] using h
    have refused : host.accepts (.listen element listener) = false := unknown
    rw [refused]
    exact (requires_unknown unknown).bind_error
  | dispatch element event =>
    exact delivers_if_known dispatch_known fun unknown => (requires_unknown unknown).bind_error
  | fire element handler event =>
    exact delivers_if_known fire_known fun unknown => (requires_unknown unknown).bind_error
  | focus element =>
    exact delivers_if_known focus_known fun unknown => (requires_unknown unknown).bind_error
  | clientPosition element =>
    have position : host.Delivers (host.perform (.clientPosition element)) _
        (if host.hasElement element then none else none : Option RecordedEvent).toList :=
      delivers_if_known (fun known => (clientPosition_known known).bind (.pure ()))
        (fun unknown => (requires_unknown unknown).bind_error.bind_error)
    rwa [ite_self] at position
  | execute element =>
    have executed : host.Delivers (host.perform (.execute element)) (.ok ()) _ :=
      (host.execute_delivers element).bind (.pure ())
    rwa [List.append_nil, ← Option.toList_some, ← Option.toList_none, ← apply_ite] at executed

theorem onlyDelivers_perform (h : host.listens? call = none) : host.OnlyDelivers (host.perform call) :=
  ⟨_, _, perform_delivers h⟩

theorem perform_accepted (h : host.accepts call = true) : s.result (host.perform call) = .ok () := by
  cases hl : host.listens? call with
  | some waiting => exact (perform_listens hl).1
  | none => rw [((perform_delivers hl) s).1, if_pos h]

theorem perform_rejected (h : host.accepts call = false) :
    s.result (host.perform call) = .error (.eventDispatch (.unknownElement call.element)) ∧
      s.after (host.perform call) = s := by
  have silent : host.listens? call = none ∧ host.makes? call = none := by
    cases call <;> simp_all [accepts, listens?, makes?, HostCall.element]
  obtain ⟨hr, ha⟩ := perform_delivers silent.1 s
  rw [h] at hr
  rw [silent.2] at ha
  exact ⟨hr, ha⟩

theorem makes?_of_listens (h : host.listens? call = some waiting) : host.makes? call = none := by
  cases call <;> first | rfl | cases h

theorem events_perform : (s.after (host.perform call)).host.events =
    s.host.events ++ (host.makes? call).toList := by
  cases hl : host.listens? call with
  | some waiting =>
    rw [(perform_listens hl).2, makes?_of_listens hl]
    exact (List.append_nil _).symm
  | none => rw [(perform_delivers hl s).2, events_deliver_all]

/-- A click runs the listeners on its element and lets them go. -/
theorem perform_click (h : (host.makes? call).bind RecordedEvent.click? = some (element, event)) :
    s.after (host.perform call) = host.clicked element event
      { s with host := { s.host with events := s.host.events ++ (host.makes? call).toList } } := by
  obtain ⟨made, hm, hc⟩ := Option.bind_eq_some_iff.mp h
  have silent : host.listens? call = none := by
    cases call <;> simp_all [makes?, listens?]
  rw [(perform_delivers silent s).2, hm]
  exact deliver_of_click hc

/-- A call that is no click, and no listener comes with it, leaves the listeners and the notes. -/
theorem perform_quiet (hl : host.listens? call = none)
    (hc : (host.makes? call).bind RecordedEvent.click? = none) :
    (s.after (host.perform call)).host.listeners = s.host.listeners ∧
      (s.after (host.perform call)).notes = s.notes := by
  rw [(perform_delivers hl s).2]
  cases hm : host.makes? call with
  | none => exact ⟨rfl, rfl⟩
  | some made =>
    rw [hm] at hc
    have delivered : host.deliver s made = _ := deliver_of_no_click hc
    simp only [Option.toList, List.foldl_cons, List.foldl_nil, delivered, and_self]

end Calls

section Places

theorem clicked?_of_call (host : RecordingHost) (h : calls[place]? = some call) :
    host.clicked? calls place = (host.makes? call).bind RecordedEvent.click? := by
  simp [clicked?, h]

theorem clicked?_of_none (h : calls[place]? = none) : host.clicked? calls place = none := by
  simp [clicked?, h]

theorem lt_length_of_clicked? {clicked : String × MouseEvent}
    (h : host.clicked? calls click = some clicked) : click < calls.length := by
  obtain ⟨made, hm, _⟩ := Option.bind_eq_some_iff.mp h
  obtain ⟨call, hp, _⟩ := Option.bind_eq_some_iff.mp hm
  exact (List.getElem?_eq_some_iff.mp hp).1

theorem any_clicked? : (host.clicked? calls click).any (·.1 = element) = true ↔
    ∃ event, host.clicked? calls click = some (element, event) := by
  cases host.clicked? calls click <;> simp [Prod.ext_iff]

theorem firstClick?_eq_some : host.firstClick? calls place = some click ↔
    ∃ element listener event, host.listening? calls place = some (element, listener) ∧
      host.clicked? calls click = some (element, event) ∧ place < click ∧
      ∀ between, place < between → between < click →
        ∀ event, host.clicked? calls between ≠ some (element, event) := by
  unfold firstClick?
  constructor
  · intro h
    obtain ⟨⟨element, listener⟩, hl, hf⟩ := Option.bind_eq_some_iff.mp h
    obtain ⟨first, -, earlier⟩ := List.find?_range_eq_some.mp hf
    obtain ⟨later, clicked⟩ := Bool.and_eq_true_iff.mp first
    obtain ⟨event, he⟩ := any_clicked?.mp clicked
    refine ⟨element, listener, event, hl, he, of_decide_eq_true later, ?_⟩
    intro between after before event hb
    have passed := earlier between before
    simp [after, hb] at passed
  · rintro ⟨element, listener, event, hl, he, later, unclicked⟩
    refine Option.bind_eq_some_iff.mpr ⟨(element, listener), hl, List.find?_range_eq_some.mpr ?_⟩
    refine ⟨by simp [later, he], List.mem_range.mpr (lt_length_of_clicked? he), ?_⟩
    intro between before
    by_cases after : place < between
    · have silent : (host.clicked? calls between).any (·.1 = element) = false := by
        rw [Bool.eq_false_iff, Ne, any_clicked?]
        exact fun ⟨event, hb⟩ => unclicked between after before event hb
      simp [silent]
    · simp [after]

/-- A listener that came before a click on its element does not wait any longer than for that. -/
theorem exists_firstClick? {listener : ClickListener}
    (hl : host.listening? calls place = some (element, listener))
    (hc : host.clicked? calls click = some (element, event)) (later : place < click) :
    ∃ first ≤ click, host.firstClick? calls place = some first := by
  have clicks : (place < click && (host.clicked? calls click).any (·.1 = element)) = true := by
    simp [later, hc]
  unfold firstClick?
  rw [hl, Option.bind_some]
  cases found : (List.range calls.length).find? fun click =>
      place < click && (host.clicked? calls click).any (·.1 = element) with
  | none =>
    have inside : click ∈ List.range calls.length := List.mem_range.mpr (lt_length_of_clicked? hc)
    exact absurd clicks (List.find?_eq_none.mp found click inside)
  | some first =>
    obtain ⟨-, -, earlier⟩ := List.find?_range_eq_some.mp found
    refine ⟨first, Nat.le_of_not_lt fun after => ?_, found⟩
    have passed := earlier click after
    rw [clicks] at passed
    cases passed

theorem firstClick?_none (h : host.clicked? calls click = none) :
    host.firstClick? calls place ≠ some click := by
  intro first
  obtain ⟨_, _, _, _, clicked, _⟩ := firstClick?_eq_some.mp first
  rw [h] at clicked
  cases clicked

theorem mem_waitingAt : place ∈ host.waitingAt calls now ↔ place < now ∧
    (host.listening? calls place).isSome ∧ (host.firstClick? calls place).all (now ≤ ·) := by
  simp [waitingAt]

/-- A listener that is waiting at a click runs if the click is on its element. -/
theorem firstClick?_of_waiting (h : place ∈ host.waitingAt calls now) :
    host.firstClick? calls place = some now ↔
      (host.listening? calls place).map Prod.fst = (host.clicked? calls now).map Prod.fst := by
  obtain ⟨came, listening, unclicked⟩ := mem_waitingAt.mp h
  obtain ⟨⟨element, listener⟩, hl⟩ := Option.isSome_iff_exists.mp listening
  rw [hl, Option.map_some]
  constructor
  · intro first
    obtain ⟨element', listener', event, hl', he, _⟩ := firstClick?_eq_some.mp first
    cases hl.symm.trans hl'
    rw [he, Option.map_some]
  · intro same
    obtain ⟨⟨target, event⟩, he, rfl⟩ := Option.map_eq_some_iff.mp same.symm
    refine firstClick?_eq_some.mpr ⟨target, listener, event, hl, he, came, ?_⟩
    intro between after before earlier hb
    obtain ⟨first, bounded, hf⟩ := exists_firstClick? hl hb after
    have waited : now ≤ first := by simpa [hf] using unclicked
    omega

theorem fst_of_waiting (h : place ∈ host.waitingAt calls now)
    (hc : host.clicked? calls now = some (element, event))
    (hl : host.listening? calls place = some waiting) :
    host.firstClick? calls place = some now ↔ waiting.1 = element := by
  rw [firstClick?_of_waiting h, hl, hc, Option.map_some, Option.map_some, Option.some_inj]

theorem runsAt_eq_filter : host.runsAt calls now =
    (host.waitingAt calls now).filter (host.firstClick? calls · = some now) := by
  rw [runsAt, waitingAt, List.filter_filter]
  refine List.filter_congr fun place _ => ?_
  by_cases first : host.firstClick? calls place = some now
  · obtain ⟨element, listener, event, hl, _⟩ := firstClick?_eq_some.mp first
    simp [first, hl]
  · simp [first]

theorem waitingAt_succ : host.waitingAt calls (now + 1) =
    (host.waitingAt calls now).filter (host.firstClick? calls · ≠ some now) ++
      if (host.listening? calls now).isSome then [now] else [] := by
  have unclicked : (host.firstClick? calls now).all (now + 1 ≤ ·) = true := by
    cases first : host.firstClick? calls now with
    | none => rfl
    | some click =>
      obtain ⟨_, _, _, _, _, later, _⟩ := firstClick?_eq_some.mp first
      exact decide_eq_true later
  have old : ∀ place, (host.firstClick? calls place).all (now + 1 ≤ ·) =
      (decide (host.firstClick? calls place ≠ some now) &&
        (host.firstClick? calls place).all (now ≤ ·)) := by
    intro place
    cases host.firstClick? calls place with
    | none => rfl
    | some click => simp; grind
  rw [waitingAt, waitingAt, List.range_succ, List.filter_append, List.filter_filter]
  congr 1
  · refine List.filter_congr fun place _ => ?_
    rw [old, Bool.and_left_comm]
  · rw [List.filter_cons, List.filter_nil, unclicked, Bool.and_true]

end Places

theorem sessionAt_succ (h : calls[now]? = some call) : host.sessionAt calls notes (now + 1) =
    (host.sessionAt calls notes now).after (host.perform call) := by
  rw [sessionAt, List.take_add_one, h, List.foldl_append]
  rfl

theorem sessionAt_end (h : calls[now]? = none) :
    host.sessionAt calls notes (now + 1) = host.sessionAt calls notes now := by
  rw [sessionAt, List.take_add_one, h, List.foldl_append]
  rfl

theorem filter_filterMap_of_agree {α β : Type} {f : α → Option β} {p : β → Bool} {q : α → Bool}
    {l : List α} (h : ∀ a ∈ l, ∀ b, f a = some b → p b = q a) :
    (l.filterMap f).filter p = (l.filter q).filterMap f := by
  rw [List.filter_filterMap, List.filterMap_filter]
  refine List.filterMap_congr fun a ha => ?_
  cases hf : f a with
  | none => rw [ite_self]; rfl
  | some b => rw [Option.filter_some, h a ha b hf]

theorem filter_fired (hc : host.clicked? calls now = some (element, event)) :
    ((host.waitingAt calls now).filterMap (host.listening? calls)).filter (·.1 = element) =
      (host.runsAt calls now).filterMap (host.listening? calls) := by
  rw [runsAt_eq_filter]
  refine filter_filterMap_of_agree fun place hp waiting hw => ?_
  exact decide_eq_decide.mpr (fst_of_waiting hp hc hw).symm

theorem filter_kept (hc : host.clicked? calls now = some (element, event)) :
    ((host.waitingAt calls now).filterMap (host.listening? calls)).filter (·.1 ≠ element) =
      ((host.waitingAt calls now).filter (host.firstClick? calls · ≠ some now)).filterMap
        (host.listening? calls) := by
  refine filter_filterMap_of_agree fun place hp waiting hw => ?_
  exact decide_eq_decide.mpr (not_congr (fst_of_waiting hp hc hw).symm)

/-- The listeners of a session are those that came and had no click on their element. -/
theorem listeners_sessionAt : (host.sessionAt calls notes now).host.listeners =
    (host.waitingAt calls now).filterMap (host.listening? calls) := by
  induction now with
  | zero => rfl
  | succ now ih =>
    have all_wait (h : host.clicked? calls now = none) :
        (host.waitingAt calls now).filter (host.firstClick? calls · ≠ some now) =
          host.waitingAt calls now :=
      List.filter_eq_self.mpr fun place _ => decide_eq_true (firstClick?_none h)
    rw [waitingAt_succ, List.filterMap_append]
    cases hn : calls[now]? with
    | none =>
      have came : host.listening? calls now = none := by simp [listening?, hn]
      rw [sessionAt_end hn, ih, all_wait (clicked?_of_none hn), came]
      exact (List.append_nil _).symm
    | some call =>
      have came : host.listening? calls now = host.listens? call := by simp [listening?, hn]
      have clicks := host.clicked?_of_call hn
      rw [sessionAt_succ hn]
      cases hl : host.listens? call with
      | some waiting =>
        have quiet : host.clicked? calls now = none := by rw [clicks, makes?_of_listens hl]; rfl
        rw [(perform_listens hl).2, ih, all_wait quiet]
        simp [came, hl]
      | none =>
        rw [came, hl]
        cases hc : (host.makes? call).bind RecordedEvent.click? with
        | none =>
          rw [(perform_quiet hl hc).1, ih, all_wait (clicks.trans hc)]
          exact (List.append_nil _).symm
        | some clicked =>
          have kept := filter_kept (clicks.trans hc)
          rw [perform_click hc]
          exact (congrArg _ ih).trans (kept.trans (List.append_nil _).symm)

theorem notes_sessionAt_succ : (host.sessionAt calls notes (now + 1)).notes =
    (host.runsAt calls now).foldl (host.runListener calls now)
      (host.sessionAt calls notes now).notes := by
  have none_run (h : host.clicked? calls now = none) : host.runsAt calls now = [] :=
    List.filter_eq_nil_iff.mpr fun place _ => by simp [firstClick?_none h]
  cases hn : calls[now]? with
  | none =>
    rw [sessionAt_end hn, none_run (clicked?_of_none hn)]
    rfl
  | some call =>
    have clicks := host.clicked?_of_call hn
    rw [sessionAt_succ hn]
    cases hc : (host.makes? call).bind RecordedEvent.click? with
    | some clicked =>
      have ran : (host.sessionAt calls notes now).host.listeners.filter (·.1 = clicked.1) =
          (host.runsAt calls now).filterMap (host.listening? calls) := by
        rw [listeners_sessionAt]
        exact filter_fired (clicks.trans hc)
      rw [perform_click hc]
      refine (congrArg (List.foldl _ _) ran).trans ?_
      rw [List.foldl_filterMap]
      refine List.foldl_ext _ _ _ fun notes place _ => ?_
      rw [runListener, clicks, hc]
      cases host.listening? calls place <;> rfl
    | none =>
      rw [none_run (clicks.trans hc)]
      cases hl : host.listens? call with
      | some waiting => rw [(perform_listens hl).2]; rfl
      | none => exact (perform_quiet hl hc).2

theorem events_sessionAt :
    (host.sessionAt calls notes now).host.events = (calls.take now).filterMap host.makes? := by
  induction now with
  | zero => rfl
  | succ now ih =>
    rw [List.take_add_one, List.filterMap_append, ← ih]
    cases hn : calls[now]? with
    | none =>
      rw [sessionAt_end hn]
      exact (List.append_nil _).symm
    | some call =>
      rw [sessionAt_succ hn, events_perform]
      cases hm : host.makes? call <;> simp [hm]

/-- Of the listeners that came by now, each one waits or has run. -/
theorem length_waitingAt : (host.waitingAt calls now).length +
    ((List.range now).flatMap (host.runsAt calls)).length =
      ((List.range now).filter fun place => (host.listening? calls place).isSome).length := by
  induction now with
  | zero => rfl
  | succ now ih =>
    have parts : (host.waitingAt calls now).length =
        ((host.waitingAt calls now).filter (host.firstClick? calls · ≠ some now)).length +
          (host.runsAt calls now).length := by
      rw [runsAt_eq_filter, List.length_eq_length_filter_add (host.firstClick? calls · = some now),
        Nat.add_comm]
      simp only [ne_eq, decide_not]
    have newcomers : (if (host.listening? calls now).isSome then [now] else []).length =
        ([now].filter fun place => (host.listening? calls place).isSome).length := by
      rw [List.filter_cons, List.filter_nil]
    rw [waitingAt_succ, List.length_append, newcomers, List.range_succ, List.flatMap_append,
      List.length_append, List.flatMap_singleton, List.filter_append, List.length_append]
    omega

/-- In every series of calls on a host without events and listeners, the listeners that run with a call
are those for which it is the first click on their element since they came, all of which were waiting,
in the order in which they came and with that click; the others go on waiting in their order, and of
all that came each one waits or has run. The events are those of the accepted calls; a call that is
rejected, its element being unknown, changes nothing. -/
theorem listeners_run_at_first_click (host : RecordingHost) (calls : List HostCall) (notes : Notes)
    (now : Nat) :
    (host.sessionAt calls notes (now + 1)).notes =
        (host.runsAt calls now).foldl (host.runListener calls now)
          (host.sessionAt calls notes now).notes ∧
      (host.sessionAt calls notes now).host.listeners =
        (host.waitingAt calls now).filterMap (host.listening? calls) ∧
      host.runsAt calls now = ((host.waitingAt calls now).filter fun place =>
        (host.listening? calls place).map Prod.fst = (host.clicked? calls now).map Prod.fst) ∧
      (host.sessionAt calls notes now).host.listeners.length +
          ((List.range now).flatMap (host.runsAt calls)).length =
        ((List.range now).filter fun place => (host.listening? calls place).isSome).length ∧
      (host.sessionAt calls notes now).host.events = (calls.take now).filterMap host.makes? ∧
      ∀ (s : Session Recording) (call : HostCall),
        (host.accepts call = true ∧ s.result (host.perform call) = .ok ()) ∨
          (host.hasElement call.element = false ∧
            s.result (host.perform call) = .error (.eventDispatch (.unknownElement call.element)) ∧
            s.after (host.perform call) = s) := by
  refine ⟨notes_sessionAt_succ, listeners_sessionAt, ?_, ?_, events_sessionAt, ?_⟩
  · rw [runsAt_eq_filter]
    exact List.filter_congr fun place hp => decide_eq_decide.mpr (firstClick?_of_waiting hp)
  · have all_listen : ∀ place ∈ host.waitingAt calls now, (host.listening? calls place).isSome := by
      intro place hp
      exact (mem_waitingAt.mp hp).2.1
    rw [listeners_sessionAt, List.filterMap_length_eq_length.mpr all_listen]
    exact length_waitingAt
  · intro s call
    cases h : host.accepts call with
    | true => exact .inl ⟨rfl, perform_accepted h⟩
    | false =>
      have unknown : host.hasElement call.element = false := by
        cases call <;> first | exact h | cases h
      exact .inr ⟨unknown, perform_rejected h⟩

/-- Of two listeners, one that comes before a click and one after it, only the first one runs. -/
example (snapshot : Snapshot) (listener : ClickListener) (event : MouseEvent) :
    let calls : List HostCall := [.listen "document" listener, .fire "document" "onclick" event,
      .listen "document" listener, .focus "document"]
    (ofSnapshot snapshot).runsAt calls 1 = [0] ∧ (ofSnapshot snapshot).waitingAt calls 4 = [2] :=
  ⟨rfl, rfl⟩

end RecordingHost
end WidgetLocator
