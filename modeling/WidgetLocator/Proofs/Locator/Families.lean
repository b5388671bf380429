import WidgetLocator.Program
import WidgetLocator.Proofs.Extension
import WidgetLocator.Proofs.Locator.RoundTrip
import WidgetLocator.Proofs.Search.Inside

namespace WidgetLocator

variable {ν ε : Type} {dispatcher : Dispatcher ν ε}

namespace Dispatcher

theorem findTagged_error {path : String} {e : Error} (h : dispatcher.findTagged path = .error e) :
    e = .endless := by
  unfold findTagged at h
  dsimp only at h
  split at h
  next =>
    split at h
    next => exact WidgetGraph.findTags_error h
    next => cases h
  next => cases h

variable [DecidableEq ν]

/-- All families of locators agree on the widget that they name. -/
structure FamiliesAgree (dispatcher : Dispatcher ν ε) : Prop where
  /-- The element of a tagged widget is that of the widget itself. -/
  tags : ∀ path, dispatcher.findElement ("qx=" ++ path) = dispatcher.findElement ("qxx=" ++ path)
  objects : ∀ path, dispatcher.locateObject (.tag path) = dispatcher.locateObject (.tagObject path)
  ofObject : ∀ path, dispatcher.findElement ("qxx=" ++ path) =
    (dispatcher.locateObject (.tagObject path)).map dispatcher.elementOf?
  /-- A search for tags fails only by having no end. -/
  returns : ∀ path e, dispatcher.findElement ("qx=" ++ path) = .error e → e = .endless
  /-- An XPath is followed from the element of the tagged widget, if there is one. -/
  xpath : ∀ path xpath,
    Locator.parse ("qxp=" ++ path ++ "//" ++ xpath) = .ok (.qx (.tagXPath path xpath)) →
    dispatcher.findElement ("qxp=" ++ path ++ "//" ++ xpath) =
      match dispatcher.findElement ("qx=" ++ path) with
      | .ok none => .ok none
      | .ok (some context) =>
        dispatcher.window.locateXPath (dispatcher.configuration.xpathLead ++ xpath) context
      | .error e => .error e
  hierarchy : ∀ text root path, Locator.parse text = .ok (.qx (.hierarchy root path)) →
    dispatcher.findElement text =
      (dispatcher.locateObject (.hierarchy root path)).map dispatcher.elementOf?

/-- The element of a locator is that of its widget, if the locator is for one. -/
theorem findElement_of_object {text : String} {locator : QxLocator}
    (parsed : Locator.parse text = .ok (.qx locator))
    (widget : ∀ path xpath, locator ≠ .tagXPath path xpath) :
    dispatcher.findElement text = (dispatcher.locateObject locator).map dispatcher.elementOf? := by
  have shown (node : Option ν) :
      dispatcher.shown ((dispatcher.elementOf? node).map .element) = dispatcher.elementOf? node := by
    cases dispatcher.elementOf? node <;> rfl
  rw [findElement_of_parse parsed]
  cases locator with
  | tag path =>
    rw [locate, locateObject]
    rcases dispatcher.findTagged path with e | node
    · rfl
    · exact congrArg Except.ok (shown node)
  | tagObject path =>
    rw [locate, locateObject]
    rcases dispatcher.findTagged path with e | _ | node <;> rfl
  | tagXPath path xpath => exact absurd rfl (widget path xpath)
  | hierarchy root path =>
    rw [locate, locateObject]
    rcases dispatcher.findInHierarchy root path with e | node
    · rfl
    · exact congrArg Except.ok (shown node)

theorem findElement_tag (path : String) :
    dispatcher.findElement ("qx=" ++ path) =
      (dispatcher.findTagged path).map dispatcher.elementOf? :=
  findElement_of_object (Locator.parse_tag path) (fun _ _ => nofun)

theorem findElement_tagXPath {text path xpath : String}
    (parsed : Locator.parse text = .ok (.qx (.tagXPath path xpath))) :
    dispatcher.findElement text =
      match dispatcher.findElement ("qx=" ++ path) with
      | .ok none => .ok none
      | .ok (some context) =>
        dispatcher.window.locateXPath (dispatcher.configuration.xpathLead ++ xpath) context
      | .error e => .error e := by
  have shown (found : Except Error (Option ε)) :
      (found.map (·.map (.element : ε → Located ν ε))).map dispatcher.shown = found := by
    rcases found with e | _ | element <;> rfl
  rw [findElement_of_parse parsed, findElement_tag, locate]
  cases dispatcher.findTagged path with
  | error e => rfl
  | ok node =>
    cases hn : dispatcher.elementOf? node with
    | none => simp only [Except.map, hn, Dispatcher.shown]
    | some context =>
      simp only [hn]
      exact (shown _).trans (by simp only [Except.map, hn])

theorem familiesAgree (dispatcher : Dispatcher ν ε) : dispatcher.FamiliesAgree where
  tags path := (findElement_tag path).trans
    (findElement_of_object (Locator.parse_tagObject path) (fun _ _ => nofun)).symm
  objects _ := rfl
  ofObject path := findElement_of_object (Locator.parse_tagObject path) (fun _ _ => nofun)
  returns path e h := by
    rw [findElement_tag] at h
    exact findTagged_error (map_eq_error_iff.mp h)
  xpath _ _ parsed := findElement_tagXPath parsed
  hierarchy _ _ _ parsed := findElement_of_object parsed (fun _ _ => nofun)

end Dispatcher

namespace Snapshot

variable {snapshot : Snapshot} {configuration : Configuration} {text : String} {locator : QxLocator}
  {report : LocateReport}

/-- The node and the element of a report are evaluated apart from each other, but belong together. -/
theorem locateReport_of_object (parsed : Locator.parse text = .ok (.qx locator))
    (widget : ∀ path xpath, locator ≠ .tagXPath path xpath)
    (h : snapshot.locateReport configuration text = .ok report) :
    ∃ node, (snapshot.dispatcher configuration).locateObject locator = .ok node ∧
      report.node = node.map snapshot.idOf ∧ report.element = node.bind snapshot.elementOf := by
  obtain ⟨read, hp, h⟩ := exists_of_bind_eq_ok h
  cases hp.symm.trans parsed
  obtain ⟨id, hi, h⟩ := exists_of_bind_eq_ok h
  obtain ⟨element, he, h⟩ := exists_of_bind_eq_ok h
  cases Except.ok.inj h
  have located : snapshot.locatedNode configuration (.qx locator) =
      ((snapshot.dispatcher configuration).locateObject locator).map (·.map snapshot.idOf) := by
    cases locator with
    | tagXPath path xpath => exact absurd rfl (widget path xpath)
    | tag | tagObject | hierarchy => rfl
  obtain ⟨node, hn, rfl⟩ := exists_of_map_eq_ok (located.symm.trans hi)
  rw [Dispatcher.findElement_of_object parsed widget, hn] at he
  exact ⟨node, hn, rfl, (Except.ok.inj he).symm⟩

end Snapshot

theorem Arguments.exit_of_locate {arguments : Arguments} {files : FileTexts} {terminal : Bool}
    {path text : String} {configuration : Configuration} {snapshot : Snapshot} {report : LocateReport}
    (task : arguments.task = .locate path text)
    (settings : arguments.settings files = .ok configuration)
    (loaded : Snapshot.load files path = .ok snapshot)
    (reported : snapshot.locateReport configuration text = .ok report) :
    (arguments.run files terminal).exit = 0 ↔ report.node.isSome ∨ report.element.isSome := by
  have performed (reporter : Reporter) : perform files configuration reporter (.locate path text) =
      .ok (.answer report.matched (reporter.showLocate report)) := by
    unfold perform
    dsimp only
    rw [loaded, bind_ok, reported, bind_ok]
    rfl
  have matched : report.matched = true ↔ report.node.isSome ∨ report.element.isSome :=
    Bool.or_eq_true_iff
  rw [run, settings, task]
  dsimp only
  rw [performed, ← matched]
  cases report.matched <;> simp [Outcome.answer]

/-- All families of locators agree on the widget that they name, in every window, and so does what the
program reports of a snapshot: the element in a report is that of the node in it. A report of neither
is the only one after which the program does not end with status zero. -/
theorem locators_agree_on_widget :
    (∀ {ν ε : Type} [DecidableEq ν] (dispatcher : Dispatcher ν ε), dispatcher.FamiliesAgree) ∧
    (∀ (document : SnapshotDocument) (snapshot : Snapshot) (configuration : Configuration)
      (text : String) (locator : QxLocator) (report : LocateReport),
      Snapshot.ofDocument document = .ok snapshot → Locator.parse text = .ok (.qx locator) →
      (∀ path xpath, locator ≠ .tagXPath path xpath) →
      snapshot.locateReport configuration text = .ok report →
      ∃ node, (snapshot.dispatcher configuration).locateObject locator = .ok node ∧
        report.node = node.map snapshot.idOf ∧ report.node.bind snapshot.node? = node ∧
        report.element = node.bind snapshot.elementOf) ∧
    ∀ (arguments : Arguments) (files : FileTexts) (terminal : Bool) (path text : String)
      (configuration : Configuration) (snapshot : Snapshot) (report : LocateReport),
      arguments.task = .locate path text → arguments.settings files = .ok configuration →
      Snapshot.load files path = .ok snapshot →
      snapshot.locateReport configuration text = .ok report →
      ((arguments.run files terminal).exit = 0 ↔ report.node.isSome ∨ report.element.isSome) := by
  refine ⟨Dispatcher.familiesAgree, ?_, ?_⟩
  · intro document snapshot configuration text locator report loaded parsed widget reported
    obtain ⟨node, located, id, element⟩ :=
      Snapshot.locateReport_of_object parsed widget reported
    exact ⟨node, located, id, id ▸ Snapshot.node?_of_locateObject loaded located, element⟩
  · intro arguments files terminal path text configuration snapshot report
    exact Arguments.exit_of_locate

/-- A file with a root and a tagged child that has an element. -/
def taggedChildText : String :=
  "application: a\nclientDocument: a\nnodes:\n  a:\n    children:\n      - $ref: c\n" ++
    "  c:\n    element: e\n    userData:\n      t: true\n"

theorem locators_agree_on_widget_taggedChild :
    let files : FileTexts := fun _ => some taggedChildText
    let arguments : Arguments := ⟨0, false, .auto, .text, none, .locate "tree.yaml" "qxx=t"⟩
    ∃ snapshot, Snapshot.load files "tree.yaml" = .ok snapshot ∧
      snapshot.locateReport .standard "qxx=t" = .ok ⟨"qxx=t", some "c", some "e"⟩ ∧
      (∃ node, snapshot.node? "c" = some node ∧ snapshot.elementOf node = some "e") ∧
      (snapshot.dispatcher .standard).findElement "qxx=t" = .ok (some "e") ∧
      (snapshot.dispatcher .standard).findElement "qxp=t//x" =
        .error (.notImplemented (.xpath "descendant-or-self::node()/x")) ∧
      (arguments.run files false).exit = 0 := by
  intro files arguments
  have followed : (do
      let snapshot ← Snapshot.load files "tree.yaml"
      let report ← snapshot.locateReport .standard "qxx=t"
      return (report, ← (snapshot.dispatcher .standard).findElement "qx=t") : Except Error _) =
      .ok (⟨"qxx=t", some "c", some "e"⟩, some "e") := by
    decide +kernel
  obtain ⟨snapshot, loaded, followed⟩ := exists_of_bind_eq_ok followed
  obtain ⟨report, reported, followed⟩ := exists_of_bind_eq_ok followed
  obtain ⟨element, found, followed⟩ := exists_of_bind_eq_ok followed
  cases Except.ok.inj followed
  obtain ⟨document, _, read⟩ := exists_of_bind_eq_ok loaded
  have families := locators_agree_on_widget.1 (snapshot.dispatcher .standard)
  have tagged : (snapshot.dispatcher .standard).findElement ("qx=" ++ "t") = .ok (some "e") := found
  have below := families.xpath "t" "x" rfl
  rw [tagged] at below
  obtain ⟨node, _, _, named, shown⟩ := locators_agree_on_widget.2.1 document snapshot .standard "qxx=t"
    (.tagObject "t") _ read rfl (fun _ _ => nofun) reported
  have widget : ∃ node, snapshot.node? "c" = some node ∧ snapshot.elementOf node = some "e" := by
    obtain ⟨node, rfl, he⟩ := Option.bind_eq_some_iff.mp shown.symm
    exact ⟨node, named, he⟩
  have ended := locators_agree_on_widget.2.2 arguments files false "tree.yaml" "qxx=t" .standard
    snapshot _ rfl rfl loaded reported
  exact ⟨snapshot, loaded, reported, widget, (families.tags "t").symm.trans tagged, below,
    ended.mpr (.inl rfl)⟩

end WidgetLocator
