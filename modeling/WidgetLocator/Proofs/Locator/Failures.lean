import WidgetLocator.Proofs.Locator.Families

namespace WidgetLocator

/-- An error in the form of a text. That a path has no steps is never found by reading one. -/
def Error.OfForm (e : Error) : Prop :=
  ∃ fault, e = .illFormed fault ∧ fault ≠ .noSteps

theorem attributePredicate_error {segment : List Char} {e : Error}
    (h : attributePredicate segment = .error e) : e.OfForm := by
  unfold attributePredicate at h
  split at h
  next => cases h
  next => cases h
  next =>
    dsimp only at h
    split at h
    next => cases h
    next =>
      cases h
      exact ⟨_, rfl, nofun⟩

theorem PathStep.parse_error {segment : List Char} {e : Error}
    (h : PathStep.parse segment = .error e) : e.OfForm := by
  unfold PathStep.parse at h
  split at h
  next => cases h
  next =>
    split at h
    next => cases h
    next =>
      split at h
      next => cases h
      next =>
        split at h
        next => exact attributePredicate_error (map_eq_error_iff.mp h)
        next =>
          cases h
          exact ⟨_, rfl, nofun⟩

theorem Path.parse_error {text : String} {e : Error} (h : Path.parse text = .error e) :
    e.OfForm := by
  rcases Path.parse_eq_error_iff.mp h with ⟨_, rfl⟩ | ⟨_, segment, _, _, _, read⟩
  · exact ⟨_, rfl, nofun⟩
  · exact PathStep.parse_error read

theorem QxLocator.parseTagXPath_error {rest : List Char} {e : Error}
    (h : QxLocator.parseTagXPath rest = .error e) : e.OfForm := by
  unfold parseTagXPath at h
  split at h
  next =>
    split at h
    next =>
      cases h
      exact ⟨_, rfl, nofun⟩
    next =>
      split at h
      next =>
        cases h
        exact ⟨_, rfl, nofun⟩
      next => cases h
  next =>
    cases h
    exact ⟨_, rfl, nofun⟩

theorem QxLocator.parseHierarchy_error {rest : List Char} {e : Error}
    (h : QxLocator.parseHierarchy rest = .error e) : e.OfForm := by
  unfold parseHierarchy at h
  exact Path.parse_error (map_eq_error_iff.mp h)

namespace Locator

variable {text : String}

theorem parse_error {e : Error} (h : parse text = .error e) : e.OfForm := by
  cases reading text with
  | tag path _ read => cases read.symm.trans h
  | tagObject path _ read => cases read.symm.trans h
  | tagXPath rest _ read =>
    exact QxLocator.parseTagXPath_error (map_eq_error_iff.mp (read.symm.trans h))
  | hierarchy rest _ read =>
    exact QxLocator.parseHierarchy_error (map_eq_error_iff.mp (read.symm.trans h))
  | unknown _ read =>
    cases read.symm.trans h
    exact ⟨_, rfl, nofun⟩
  | native _ read => cases read.symm.trans h

theorem parse_eq_native_iff {locator : String} :
    parse text = .ok (.native locator) ↔ ¬"qx".toList <+: text.toList ∧ locator = text := by
  have family {lead rest : String} (start : text = lead ++ rest) (hl : "qx".toList <+: lead.toList) :
      "qx".toList <+: text.toList := by
    rw [start, String.toList_append]
    exact hl.trans (List.prefix_append _ _)
  have apart {result : Except Error QxLocator} :
      result.map Locator.qx ≠ .ok (.native locator) := by
    intro h
    obtain ⟨_, _, he⟩ := exists_of_map_eq_ok h
    cases he
  constructor
  · intro h
    cases reading text with
    | tag _ _ read => cases read.symm.trans h
    | tagObject _ _ read => cases read.symm.trans h
    | tagXPath _ _ read => exact absurd (read.symm.trans h) apart
    | hierarchy _ _ read => exact absurd (read.symm.trans h) apart
    | unknown _ read => cases read.symm.trans h
    | native other read =>
      cases read.symm.trans h
      exact ⟨other, rfl⟩
  · rintro ⟨other, rfl⟩
    cases reading locator with
    | tag _ start _ => exact absurd (family start (by decide)) other
    | tagObject _ start _ => exact absurd (family start (by decide)) other
    | tagXPath _ start _ => exact absurd (family start (by decide)) other
    | hierarchy _ start _ => exact absurd (family start (by decide)) other
    | unknown start _ => exact absurd start other
    | native _ read => exact read

theorem starts_of_hierarchy {root : HierarchyRoot} {path : Path}
    (h : parse text = .ok (.qx (.hierarchy root path))) : "qxh=".toList <+: text.toList := by
  cases reading text with
  | tag path start read => cases read.symm.trans h
  | tagObject path start read => cases read.symm.trans h
  | tagXPath rest start read =>
    obtain ⟨locator, tags, he⟩ := exists_of_map_eq_ok (read.symm.trans h)
    obtain ⟨_, _, rfl, _⟩ := QxLocator.parseTagXPath_written tags
    cases he
  | hierarchy rest start read =>
    rw [start, String.toList_append]
    exact List.prefix_append _ _
  | unknown start read => cases read.symm.trans h
  | native start read => cases read.symm.trans h

end Locator

theorem PathSearch.resolveSteps_ne_noSteps {ν : Type} [DecidableEq ν] {search : PathSearch ν}
    {fuel : Nat} {node : ν} {steps : List PathStep} {above : List ν} (hne : steps ≠ []) :
    search.resolveSteps fuel node steps above ≠ .error (.fatal (.illFormed .noSteps)) := by
  intro h
  have other : Error.illFormed .noSteps ≠ .endless := nofun
  obtain ⟨_, name, _, _, same⟩ := cause_of_fatal hne other h
  cases same

namespace Dispatcher

variable {ν ε : Type} [DecidableEq ν] {dispatcher : Dispatcher ν ε} {nodes : Finset ν}
  {text : String} {locator : QxLocator}

theorem findElement_of_unread {e : Error} (unread : Locator.parse text = .error e) :
    dispatcher.findElement text = .error e := by
  unfold findElement
  rw [unread]

theorem findElement_of_native {native : String} (parsed : Locator.parse text = .ok (.native native)) :
    dispatcher.findElement text = dispatcher.window.locateNative native := by
  unfold findElement
  rw [parsed]

theorem findElement_eq_endless_iff (counts : dispatcher.window.CountsNodes nodes)
    (parsed : Locator.parse text = .ok (.qx locator)) :
    dispatcher.findElement text = .error .endless ↔ ¬dispatcher.Ends locator := by
  rw [findElement_of_parse parsed, map_eq_error_iff]
  constructor
  · rintro endless ⟨n, ends⟩
    rw [(locate_of_within counts ends).1] at endless
    exact ends endless
  · intro never
    have here := not_exists.mp never dispatcher.window.nodes
    rw [within_self] at here
    exact not_not.mp here

theorem findInHierarchy_eq_error_iff {root : HierarchyRoot} {path : Path} {e : Error} :
    dispatcher.findInHierarchy root path = .error e ↔ dispatcher.window.toolkit = true ∧
      ∃ start, dispatcher.hierarchyStart root = some start ∧
        dispatcher.pathSearch.resolve dispatcher.window.nodes start path = .error (.fatal e) := by
  unfold findInHierarchy
  cases dispatcher.window.toolkit with
  | false => simp
  | true =>
    cases dispatcher.hierarchyStart root with
    | none => simp
    | some start =>
      simp only [if_true, Option.some.injEq, exists_eq_left', true_and]
      cases dispatcher.pathSearch.resolve dispatcher.window.nodes start path with
      | ok found => simp
      | error dead => cases dead <;> simp

theorem findElement_tagXPath_eq_error_iff {path xpath : String} {e : Error}
    (parsed : Locator.parse text = .ok (.qx (.tagXPath path xpath))) (returns : e ≠ .endless) :
    dispatcher.findElement text = .error e ↔
      ∃ node context, dispatcher.findTagged path = .ok (some node) ∧
        dispatcher.window.elementOf node = some context ∧
        dispatcher.window.locateXPath (dispatcher.configuration.xpathLead ++ xpath) context =
          .error e := by
  rw [findElement_tagXPath parsed, findElement_tag]
  cases tagged : dispatcher.findTagged path with
  | error e' =>
    obtain rfl := findTagged_error tagged
    simp [Except.map, returns.symm]
  | ok widget =>
    cases widget with
    | none => simp [Except.map, elementOf?]
    | some node =>
      have element : dispatcher.elementOf? (some node) = dispatcher.window.elementOf node := rfl
      cases shown : dispatcher.window.elementOf node <;> simp [Except.map, element, shown]

/-- The widget that a locator names, or the one that its XPath starts from. -/
def namedWidget (dispatcher : Dispatcher ν ε) : QxLocator → Except Error (Option ν)
  | .tag path => dispatcher.findTagged path
  | .tagObject path => dispatcher.findTagged path
  | .tagXPath path _ => dispatcher.findTagged path
  | .hierarchy root path => dispatcher.findInHierarchy root path

theorem findElement_of_no_widget (parsed : Locator.parse text = .ok (.qx locator))
    (missing : dispatcher.namedWidget locator = .ok none) :
    dispatcher.findElement text = .ok none := by
  cases locator with
  | tagXPath path xpath =>
    have untagged : dispatcher.findTagged path = .ok none := missing
    rw [findElement_tagXPath parsed, findElement_tag, untagged]
    rfl
  | tag path | tagObject path | hierarchy root path =>
    rw [findElement_of_object parsed (fun _ _ => nofun)]
    exact congrArg (Except.map dispatcher.elementOf?) missing

section Absent

variable (absent : dispatcher.window.toolkit = false ∨
  dispatcher.window.application = none ∧ dispatcher.window.clientRoot = none)

include absent

omit [DecidableEq ν] in
theorem findTagged_of_absent (path : String) : dispatcher.findTagged path = .ok none := by
  obtain gone | ⟨_, root⟩ := absent
  · simp [findTagged, gone]
  · simp [findTagged, root]

theorem findInHierarchy_of_absent (root : HierarchyRoot) (path : Path) :
    dispatcher.findInHierarchy root path = .ok none := by
  obtain gone | ⟨unset, unrooted⟩ := absent
  · simp [findInHierarchy, gone]
  · have start : dispatcher.hierarchyStart root = none := by
      cases root with
      | clientDocument => exact unrooted
      | application => exact unset
    simp [findInHierarchy, start]

/-- Without toolkit or roots there is no widget to name. -/
theorem namedWidget_of_absent (locator : QxLocator) :
    dispatcher.namedWidget locator = .ok none := by
  cases locator with
  | tag path | tagObject path | tagXPath path _ => exact findTagged_of_absent absent path
  | hierarchy root path => exact findInHierarchy_of_absent absent root path

end Absent

theorem findInHierarchy_of_isMiss (counts : dispatcher.window.CountsNodes nodes)
    {root : HierarchyRoot} {path : Path} {start : ν} {outcome : Resolution ν}
    (starts : dispatcher.hierarchyStart root = some start)
    (returns : dispatcher.pathSearch.Returns start path outcome) (miss : IsMiss outcome) :
    dispatcher.findInHierarchy root path = .ok none := by
  have resolved := PathSearch.resolve_eq_of_returns counts.descendants returns counts.card
  unfold findInHierarchy
  rw [starts]
  split
  next =>
    dsimp only
    rw [resolved]
    obtain rfl | ⟨steps, rfl⟩ := miss <;> rfl
  next => rfl

end Dispatcher

namespace Snapshot

variable {document : SnapshotDocument} {snapshot : Snapshot} {configuration : Configuration}
  {text : String}

/-- Why a text leads to an error in a snapshot. -/
inductive FailsWith (snapshot : Snapshot) (configuration : Configuration) (text : String) :
    Error → Prop
  | unread {fault : FormFault} : Locator.parse text = .error (.illFormed fault) →
      FailsWith snapshot configuration text (.illFormed fault)
  /-- Neither a locator of the `qx` family nor one that a snapshot knows. -/
  | strategy : ¬"qx".toList <+: text.toList → text ≠ "dom=document" →
      ¬"id=".toList <+: text.toList →
      FailsWith snapshot configuration text (.notImplemented (.strategy text))
  /-- An XPath that has an element to start from. -/
  | xpath {path xpath context : String} {node : NodeId} :
      Locator.parse text = .ok (.qx (.tagXPath path xpath)) →
      (snapshot.dispatcher configuration).findTagged path = .ok (some node) →
      snapshot.elementOf node = some context →
      FailsWith snapshot configuration text
        (.notImplemented (.xpath (configuration.xpathLead ++ xpath)))
  /-- A search that comes to a class step and knows no classes. -/
  | registry {root : HierarchyRoot} {path : Path} {start : NodeId} {step : String} :
      Locator.parse text = .ok (.qx (.hierarchy root path)) → snapshot.toolkit = true →
      (snapshot.dispatcher configuration).hierarchyStart root = some start →
      (snapshot.dispatcher configuration).pathSearch.Returns start path
        (.error (.fatal (.registryUnavailable step))) →
      FailsWith snapshot configuration text (.registryUnavailable step)
  | endless {locator : QxLocator} : Locator.parse text = .ok (.qx locator) →
      ¬(snapshot.dispatcher configuration).Ends locator →
      FailsWith snapshot configuration text .endless

theorem locateNative_eq_error_iff {locator : String} {e : Error} :
    snapshot.locateNative locator = .error e ↔ locator ≠ "dom=document" ∧
      ¬"id=".toList <+: locator.toList ∧ e = .notImplemented (.strategy locator) := by
  unfold locateNative
  by_cases whole : locator = "dom=document"
  · simp [whole]
  · rw [if_neg whole, ← dropLeading_eq_none_iff]
    cases dropLeading "id=".toList locator.toList with
    | some id => simp
    | none => simp [whole, eq_comm]

theorem failsWith_of_qx (loaded : ofDocument document = .ok snapshot) {locator : QxLocator}
    (read : Locator.parse text = .ok (.qx locator)) {e : Error}
    (h : (snapshot.dispatcher configuration).findElement text = .error e) :
    snapshot.FailsWith configuration text e := by
  have counts := window_countsNodes loaded
  by_cases never : e = .endless
  · subst never
    exact .endless read ((Dispatcher.findElement_eq_endless_iff counts read).mp h)
  cases locator with
  | tag path | tagObject path =>
    rw [Dispatcher.findElement_of_object read (fun _ _ => nofun), map_eq_error_iff] at h
    exact absurd (Dispatcher.findTagged_error h) never
  | tagXPath path xpath =>
    obtain ⟨node, context, tagged, shown, refused⟩ :=
      (Dispatcher.findElement_tagXPath_eq_error_iff read never).mp h
    cases Except.error.inj refused
    exact .xpath read tagged shown
  | hierarchy root path =>
    rw [Dispatcher.findElement_of_object read (fun _ _ => nofun), map_eq_error_iff] at h
    obtain ⟨toolkit, start, starts, fatal⟩ := Dispatcher.findInHierarchy_eq_error_iff.mp h
    obtain ⟨_, step, _, _, rfl⟩ := PathSearch.cause_of_fatal path.nonempty never fatal
    exact .registry read toolkit starts ⟨nofun, _, fatal⟩

theorem failsWith_of_findElement (loaded : ofDocument document = .ok snapshot) {e : Error}
    (h : (snapshot.dispatcher configuration).findElement text = .error e) :
    snapshot.FailsWith configuration text e := by
  cases read : Locator.parse text with
  | error e' =>
    cases (Dispatcher.findElement_of_unread read).symm.trans h
    obtain ⟨fault, rfl, _⟩ := Locator.parse_error read
    exact .unread read
  | ok locator =>
    cases locator with
    | native native =>
      obtain ⟨other, rfl⟩ := Locator.parse_eq_native_iff.mp read
      have refused : snapshot.locateNative native = .error e :=
        (Dispatcher.findElement_of_native read).symm.trans h
      obtain ⟨whole, id, rfl⟩ := locateNative_eq_error_iff.mp refused
      exact .strategy other whole id
    | qx locator => exact failsWith_of_qx loaded read h

theorem findElement_of_failsWith (loaded : ofDocument document = .ok snapshot) {e : Error}
    (h : snapshot.FailsWith configuration text e) :
    (snapshot.dispatcher configuration).findElement text = .error e := by
  have counts := window_countsNodes loaded
  cases h with
  | unread read => exact Dispatcher.findElement_of_unread read
  | strategy other whole id =>
    have read := Locator.parse_eq_native_iff.mpr ⟨other, rfl⟩
    have refused : snapshot.locateNative text = .error (.notImplemented (.strategy text)) :=
      locateNative_eq_error_iff.mpr ⟨whole, id, rfl⟩
    exact (Dispatcher.findElement_of_native read).trans refused
  | xpath read tagged shown =>
    have returns (limitation : Limitation) : Error.notImplemented limitation ≠ .endless := nofun
    exact (Dispatcher.findElement_tagXPath_eq_error_iff read (returns _)).mpr
      ⟨_, _, tagged, shown, rfl⟩
  | registry read toolkit starts returns =>
    rw [Dispatcher.findElement_of_object read (fun _ _ => nofun), map_eq_error_iff]
    have resolved := PathSearch.resolve_eq_of_returns counts.descendants returns counts.card
    exact Dispatcher.findInHierarchy_eq_error_iff.mpr ⟨toolkit, _, starts, resolved⟩
  | endless read never => exact (Dispatcher.findElement_eq_endless_iff counts read).mpr never

/-- What following a text in a snapshot fails with, and what does not make it fail. -/
structure FailuresExplained (snapshot : Snapshot) (configuration : Configuration) (text : String) :
    Prop where
  fails : ∀ e, (snapshot.dispatcher configuration).findElement text = .error e ↔
    snapshot.FailsWith configuration text e
  illFormed : (∃ fault, (snapshot.dispatcher configuration).findElement text =
    .error (.illFormed fault)) ↔ ∃ e, Locator.parse text = .error e
  notImplemented : (∃ limitation, (snapshot.dispatcher configuration).findElement text =
    .error (.notImplemented limitation)) ↔
      (¬"qx".toList <+: text.toList ∧ text ≠ "dom=document" ∧ ¬"id=".toList <+: text.toList) ∨
      ∃ path xpath node, Locator.parse text = .ok (.qx (.tagXPath path xpath)) ∧
        (snapshot.dispatcher configuration).findTagged path = .ok (some node) ∧
        (snapshot.elementOf node).isSome
  registryUnavailable : ∀ step, (snapshot.dispatcher configuration).findElement text =
    .error (.registryUnavailable step) →
      "qxh=".toList <+: text.toList ∧ snapshot.classes = none ∧ snapshot.toolkit = true ∧
      ∃ root path start, Locator.parse text = .ok (.qx (.hierarchy root path)) ∧
        (snapshot.dispatcher configuration).hierarchyStart root = some start ∧
        .name step ∈ path.steps ∧ isClassName step = true
  /-- A path has at least one step wherever it is resolved. -/
  noSteps : (snapshot.dispatcher configuration).findElement text ≠ .error (.illFormed .noSteps)
  absent : ∀ locator, Locator.parse text = .ok (.qx locator) →
    snapshot.toolkit = false ∨ snapshot.application = none →
    (snapshot.dispatcher configuration).findElement text = .ok none
  unnamed : ∀ locator, Locator.parse text = .ok (.qx locator) →
    (snapshot.dispatcher configuration).namedWidget locator = .ok none →
    (snapshot.dispatcher configuration).findElement text = .ok none
  /-- Steps that are not resolved, and those that end at a scalar. -/
  missed : ∀ root path start outcome, Locator.parse text = .ok (.qx (.hierarchy root path)) →
    (snapshot.dispatcher configuration).hierarchyStart root = some start →
    (snapshot.dispatcher configuration).pathSearch.Returns start path outcome → IsMiss outcome →
    (snapshot.dispatcher configuration).findElement text = .ok none

theorem findElement_eq_error_iff (loaded : ofDocument document = .ok snapshot) {e : Error} :
    (snapshot.dispatcher configuration).findElement text = .error e ↔
      snapshot.FailsWith configuration text e :=
  ⟨failsWith_of_findElement loaded, findElement_of_failsWith loaded⟩

theorem clientRoot_of_unset (unset : snapshot.application = none) :
    snapshot.window.clientRoot = none := by
  simp [window, unset]

theorem classes_eq_none_of_registry (h : snapshot.registry? = none) : snapshot.classes = none := by
  unfold registry? at h
  split at h
  next => cases h
  next unknown => exact Option.not_isSome_iff_eq_none.mp unknown

theorem failuresExplained (loaded : ofDocument document = .ok snapshot)
    (configuration : Configuration) (text : String) :
    snapshot.FailuresExplained configuration text where
  fails _ := findElement_eq_error_iff loaded
  illFormed := by
    constructor
    · rintro ⟨fault, h⟩
      cases failsWith_of_findElement loaded h with
      | unread read => exact ⟨_, read⟩
    · rintro ⟨e, read⟩
      obtain ⟨fault, rfl, _⟩ := Locator.parse_error read
      exact ⟨fault, findElement_of_failsWith loaded (.unread read)⟩
  notImplemented := by
    constructor
    · rintro ⟨limitation, h⟩
      cases failsWith_of_findElement loaded h with
      | strategy other whole id => exact Or.inl ⟨other, whole, id⟩
      | xpath read tagged shown =>
        exact Or.inr ⟨_, _, _, read, tagged, Option.isSome_of_eq_some shown⟩
    · rintro (⟨other, whole, id⟩ | ⟨path, xpath, node, read, tagged, shown⟩)
      · exact ⟨_, findElement_of_failsWith loaded (.strategy other whole id)⟩
      · obtain ⟨context, shown⟩ := Option.isSome_iff_exists.mp shown
        exact ⟨_, findElement_of_failsWith loaded (.xpath read tagged shown)⟩
  registryUnavailable step h := by
    cases failsWith_of_findElement loaded h with
    | @registry root path start step read toolkit starts returns =>
      obtain ⟨_, fuel, fatal⟩ := returns
      have other : Error.registryUnavailable step ≠ .endless := nofun
      obtain ⟨unknown, name, there, isClass, same⟩ :=
        PathSearch.cause_of_fatal path.nonempty other fatal
      cases same
      exact ⟨Locator.starts_of_hierarchy read, classes_eq_none_of_registry unknown, toolkit,
        root, path, start, read, starts, there, isClass⟩
  noSteps h := by
    cases failsWith_of_findElement loaded h with
    | unread read =>
      obtain ⟨fault, same, other⟩ := Locator.parse_error read
      cases same
      exact other rfl
  absent locator read nothing :=
    Dispatcher.findElement_of_no_widget read
      (Dispatcher.namedWidget_of_absent
        (nothing.imp_right fun unset => ⟨unset, clientRoot_of_unset unset⟩) locator)
  unnamed locator read := Dispatcher.findElement_of_no_widget read
  missed root path start outcome read starts returns miss :=
    Dispatcher.findElement_of_no_widget read
      (Dispatcher.findInHierarchy_of_isMiss (window_countsNodes loaded) starts returns miss)

/-- Following a text in a snapshot fails for a few reasons only, each of which is known exactly, and
what is absent is no failure. No search for a path, in any graph and below any wildcards, makes a
call without steps: those that are listed are all that it makes. -/
theorem failures_explained (loaded : ofDocument document = .ok snapshot) :
    (∀ configuration text, snapshot.FailuresExplained configuration text) ∧
    ∀ {ν : Type} [DecidableEq ν] (search : PathSearch ν) (root : ν) (path : Path) (fuel : Nat),
      search.resolveSteps fuel root path.steps [] ≠ .error (.fatal (.illFormed .noSteps)) ∧
      (search.resolveLogged fuel (PathSearch.firstCall root path)).outcome =
        search.resolveSteps fuel root path.steps [] ∧
      (∀ call, call ∈ (search.resolveLogged fuel (PathSearch.firstCall root path)).calls ↔
        search.Makes fuel (PathSearch.firstCall root path) call) ∧
      ∀ call ∈ (search.resolveLogged fuel (PathSearch.firstCall root path)).calls,
        call.steps ≠ [] ∧ ∀ fuel, search.resolveSteps fuel call.node call.steps call.above ≠
          .error (.fatal (.illFormed .noSteps)) := by
  refine ⟨failuresExplained loaded, fun search root path fuel => ⟨?_, ?_, fun call => ?_,
    fun call hc => ?_⟩⟩
  · exact PathSearch.resolveSteps_ne_noSteps path.nonempty
  · exact PathSearch.resolveLogged_outcome fuel _
  · exact PathSearch.mem_calls_iff
  · have hne : call.steps ≠ [] := PathSearch.steps_ne_nil_of_mem_calls path.nonempty hc
    exact ⟨hne, fun _ => PathSearch.resolveSteps_ne_noSteps hne⟩

theorem failures_explained_mutualParents :
    ∃ snapshot, ofDocument mutualParents = .ok snapshot ∧
      (snapshot.dispatcher .standard).findElement "qxh=app:*/child[0]/qx.ui.Button" =
        .error (.registryUnavailable "qx.ui.Button") ∧
      (snapshot.dispatcher .standard).findElement "qxh=qx.ui.Button" = .ok none ∧
      ∀ call ∈ ((snapshot.dispatcher .standard).pathSearch.resolveLogged 9
        (PathSearch.firstCall 0 ⟨[.wildcard, .name "qx.ui.Button"], by simp⟩)).calls,
        call.steps ≠ [] := by
  obtain ⟨snapshot, loaded⟩ : ∃ snapshot, ofDocument mutualParents = .ok snapshot := ⟨_, rfl⟩
  obtain ⟨explained, calls⟩ := failures_explained loaded
  refine ⟨snapshot, loaded, ?_, ?_, ?_⟩
  · cases loaded
    exact ((explained .standard _).fails _).mpr (.registry rfl rfl rfl ⟨nofun, 3, rfl⟩)
  · cases loaded
    exact (explained .standard _).unnamed _ rfl rfl
  · intro call hc
    exact ((calls _ 0 ⟨[.wildcard, .name "qx.ui.Button"], by simp⟩ 9).2.2.2 call hc).1

end Snapshot
end WidgetLocator
