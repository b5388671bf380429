import WidgetLocator.Proofs.Search.Inside
import WidgetLocator.Proofs.Search.Trail

namespace WidgetLocator

variable {ν ε : Type}

/-- The state of a node that is enabled or disabled by itself. -/
def EnabledState.of (enabled : Bool) : EnabledState :=
  if enabled then .enabled else .disabled

theorem EnabledState.of_injective : Function.Injective EnabledState.of := by
  decide

namespace WidgetGraph

variable {graph : WidgetGraph ν} {node : ν}

/-- A node is enabled or disabled by itself. -/
def Decides (graph : WidgetGraph ν) (node : ν) : Prop :=
  ∃ enabled, graph.enabledState node = some (.of enabled)

/-- The node that a number of steps to the parent lead to. -/
def ancestor (graph : WidgetGraph ν) (node : ν) (steps : Nat) : Option ν :=
  linked graph.parent node steps

/-- Of the nodes from a node upwards, the nearest one that decides does so in a certain way. -/
def NearestDecides (graph : WidgetGraph ν) (node : ν) (enabled : Bool) : Prop :=
  ∃ steps decider, graph.ancestor node steps = some decider ∧
    graph.enabledState decider = some (.of enabled) ∧
    ∀ fewer < steps, ∀ between, graph.ancestor node fewer = some between → ¬graph.Decides between

/-- No node from a node upwards decides. -/
def NoneDecides (graph : WidgetGraph ν) (node : ν) : Prop :=
  ∀ steps between, graph.ancestor node steps = some between → ¬graph.Decides between

theorem NearestDecides.unique {first second : Bool} (h : graph.NearestDecides node first)
    (h' : graph.NearestDecides node second) : first = second := by
  obtain ⟨m, v, hv, decided, before⟩ := h
  obtain ⟨n, w, hw, decided', before'⟩ := h'
  rcases Nat.lt_trichotomy m n with lt | rfl | gt
  · exact absurd ⟨first, decided⟩ (before' m lt v hv)
  · cases hv.symm.trans hw
    exact EnabledState.of_injective (Option.some.inj (decided.symm.trans decided'))
  · exact absurd ⟨second, decided'⟩ (before n gt w hw)

theorem NearestDecides.not_noneDecides {enabled : Bool} (h : graph.NearestDecides node enabled) :
    ¬graph.NoneDecides node := by
  obtain ⟨n, v, hv, decided, _⟩ := h
  exact fun none => none n v hv ⟨enabled, decided⟩

end WidgetGraph

namespace Dispatcher

variable [DecidableEq ν] {dispatcher : Dispatcher ν ε} {start node parent : ν} {passed : List ν}
  {fuel : Nat} {locator : String}

section Rounds

theorem decideEnabled_of_state {enabled : Bool}
    (h : dispatcher.window.graph.enabledState node = some (.of enabled)) :
    dispatcher.decideEnabled locator (fuel + 1) passed node = .ok enabled := by
  cases enabled <;> simp [decideEnabled, h, EnabledState.of]

theorem decideEnabled_of_inherits (h : ¬dispatcher.window.graph.Decides node) :
    dispatcher.decideEnabled locator (fuel + 1) passed node =
      match dispatcher.window.graph.parent node with
      | some parent =>
        if (node :: passed).contains parent then .error (.notFound (.decision locator))
        else dispatcher.decideEnabled locator fuel (node :: passed) parent
      | none => .error (.notFound (.decision locator)) := by
  rw [decideEnabled]
  split
  next enabled => exact absurd ⟨true, enabled⟩ h
  next disabled => exact absurd ⟨false, disabled⟩ h
  next => rfl

theorem decideEnabled_of_parent (h : ¬dispatcher.window.graph.Decides node)
    (up : dispatcher.window.graph.parent node = some parent) (new : parent ∉ node :: passed) :
    dispatcher.decideEnabled locator (fuel + 1) passed node =
      dispatcher.decideEnabled locator fuel (node :: passed) parent := by
  rw [decideEnabled_of_inherits h, up]
  exact if_neg fun again => new (List.contains_iff_mem.mp again)

theorem decideEnabled_of_stuck (h : ¬dispatcher.window.graph.Decides node)
    (stuck : ∀ parent, dispatcher.window.graph.parent node = some parent → parent ∈ node :: passed) :
    dispatcher.decideEnabled locator (fuel + 1) passed node =
      .error (.notFound (.decision locator)) := by
  rw [decideEnabled_of_inherits h]
  cases up : dispatcher.window.graph.parent node with
  | none => rfl
  | some parent => exact if_pos (List.contains_iff_mem.mpr (stuck parent up))

end Rounds

/-- What the nodes from a node upwards say of it. -/
inductive Verdict (dispatcher : Dispatcher ν ε) (locator : String) (node : ν) :
    Except Error Bool → Prop
  | decided {enabled : Bool} : dispatcher.window.graph.NearestDecides node enabled →
      Verdict dispatcher locator node (.ok enabled)
  | undecided : dispatcher.window.graph.NoneDecides node →
      Verdict dispatcher locator node (.error (.notFound (.decision locator)))

omit [DecidableEq ν] in
theorem Verdict.unique {first second : Except Error Bool}
    (h : dispatcher.Verdict locator node first) (h' : dispatcher.Verdict locator node second) :
    first = second := by
  cases h with
  | decided nearest =>
    cases h' with
    | decided nearest' => rw [nearest.unique nearest']
    | undecided none => exact absurd none nearest.not_noneDecides
  | undecided none =>
    cases h' with
    | decided nearest => exact absurd none nearest.not_noneDecides
    | undecided => rfl

/-- The nodes that were passed decided nothing, and there are always nodes left for another round. -/
theorem verdict_of_trail {nodes : Finset ν}
    (trail : Trail dispatcher.window.graph.parent start passed node)
    (undecided : ∀ v ∈ passed, ¬dispatcher.window.graph.Decides v) (first : start ∈ nodes)
    (inside : ∀ v parent, dispatcher.window.graph.parent v = some parent → parent ∈ nodes)
    (room : nodes.card ≤ fuel + passed.length) :
    dispatcher.Verdict locator start (dispatcher.decideEnabled locator fuel passed node) := by
  induction fuel generalizing passed node with
  | zero =>
    -- the rounds cannot run out, since no walk is longer than there are nodes
    have bound := trail.length_le (trail.forall_mem first inside)
    omega
  | succ fuel ih =>
    by_cases decides : dispatcher.window.graph.Decides node
    · obtain ⟨enabled, state⟩ := decides
      rw [decideEnabled_of_state state]
      refine .decided ⟨passed.length, node, trail.linked_length, state, ?_⟩
      exact fun fewer lt between h => undecided between (trail.mem_of_linked_lt lt h)
    · have undecided' : ∀ v ∈ node :: passed, ¬dispatcher.window.graph.Decides v :=
        List.forall_mem_cons.mpr ⟨decides, undecided⟩
      by_cases up : ∃ parent, dispatcher.window.graph.parent node = some parent ∧
          parent ∉ node :: passed
      · obtain ⟨parent, up, new⟩ := up
        rw [decideEnabled_of_parent decides up new]
        refine ih (trail.step up new) undecided' ?_
        rw [List.length_cons]
        omega
      · push Not at up
        rw [decideEnabled_of_stuck decides up]
        exact .undecided fun steps between h => undecided' between (trail.mem_of_linked up h)

theorem isEnabled_of_tag {path : String} {widget : ν}
    (parsed : Locator.parse locator = .ok (.qx (.tag path)))
    (leads : dispatcher.locateObject (.tag path) = .ok (some widget)) :
    dispatcher.isEnabled locator =
      dispatcher.decideEnabled locator (dispatcher.window.nodes + 1) [] widget := by
  have target : enabledTarget locator = .ok (.tagObject path) := by simp only [enabledTarget, parsed]
  have found : dispatcher.locateObject (.tagObject path) = .ok (some widget) := leads
  simp only [isEnabled, target, found]

end Dispatcher

namespace Snapshot

/-- A tagged widget is enabled or disabled as the nearest node upwards that decides it, and nothing
is found only if no node upwards decides it. As many rounds as there are nodes are always enough. -/
theorem isEnabled_nearest {document : SnapshotDocument} {snapshot : Snapshot}
    (loaded : ofDocument document = .ok snapshot) (configuration : Configuration)
    {locator path : String} (parsed : Locator.parse locator = .ok (.qx (.tag path))) {widget : NodeId}
    (leads : (snapshot.dispatcher configuration).locateObject (.tag path) = .ok (some widget)) :
    let dispatcher := snapshot.dispatcher configuration
    (∀ enabled, dispatcher.isEnabled locator = .ok enabled ↔
      snapshot.graph.NearestDecides widget enabled) ∧
    (∀ e, dispatcher.isEnabled locator = .error e ↔
      e = .notFound (.decision locator) ∧ snapshot.graph.NoneDecides widget) ∧
    ∀ rounds ≥ snapshot.size,
      dispatcher.decideEnabled locator rounds [] widget = dispatcher.isEnabled locator := by
  intro dispatcher
  have inside : ∀ v parent, snapshot.graph.parent v = some parent →
      parent ∈ Finset.range snapshot.size :=
    fun v parent up => Finset.mem_range.mpr (parent_lt loaded up)
  have first : widget ∈ Finset.range snapshot.size :=
    Finset.mem_range.mpr ((leadsTo_lt loaded configuration).locateObject leads)
  have ends (rounds : Nat) (enough : snapshot.size ≤ rounds) :
      dispatcher.Verdict locator widget (dispatcher.decideEnabled locator rounds [] widget) :=
    Dispatcher.verdict_of_trail .start (by simp) first inside (by simpa using enough)
  have verdict : dispatcher.Verdict locator widget (dispatcher.isEnabled locator) := by
    rw [Dispatcher.isEnabled_of_tag parsed leads]
    exact ends _ (Nat.le_succ _)
  refine ⟨fun enabled => ⟨?_, ?_⟩, fun e => ⟨?_, ?_⟩, fun rounds enough => ?_⟩
  · intro answer
    rw [answer] at verdict
    cases verdict with
    | decided nearest => exact nearest
  · exact fun nearest => verdict.unique (.decided nearest)
  · intro failure
    rw [failure] at verdict
    cases verdict with
    | undecided none => exact ⟨rfl, none⟩
  · rintro ⟨rfl, none⟩
    exact verdict.unique (.undecided none)
  · exact (ends rounds enough).unique verdict

/-- A widget with a tag, a parent and a state. -/
def taggedBelow (tag parent : String) (state : Option EnabledState) : NodeDefinition :=
  { parentOf [] with
    userData := ⟨[(tag, .bool true)], List.nodup_singleton tag⟩
    parent := some parent
    enabled := state }

/-- A root that is its own parent, and two pairs of widgets that are parents of each other. -/
def inCircles : SnapshotDocument where
  location := none
  toolkit := none
  application := some "a"
  clientDocument := some "a"
  classes := none
  nodes := ⟨[("a", { parentOf ["b", "c", "d", "e"] with parent := some "a" }),
    ("b", taggedBelow "t" "c" none), ("c", taggedBelow "u" "b" (some .inherit)),
    ("d", taggedBelow "v" "e" (some .inherit)), ("e", taggedBelow "w" "d" (some .disabled))],
    by decide⟩

theorem isEnabled_nearest_inCircles :
    ∃ snapshot, ofDocument inCircles = .ok snapshot ∧
      (snapshot.dispatcher .standard).isEnabled "qx=t" =
        .error (.notFound (.decision "qx=t")) ∧
      (snapshot.dispatcher .standard).isEnabled "qx=v" = .ok false := by
  have circle (graph : WidgetGraph NodeId) (up : graph.parent 1 = some 2)
      (back : graph.parent 2 = some 1) (steps : Nat) :
      ∀ between, graph.ancestor 1 steps = some between → between = 1 ∨ between = 2 := by
    induction steps with
    | zero => exact fun between h => Or.inl (Option.some.inj h).symm
    | succ steps ih =>
      intro between h
      obtain ⟨below, hb, h⟩ := Option.bind_eq_some_iff.mp h
      rcases ih below hb with rfl | rfl
      · exact Or.inr (Option.some.inj (h.symm.trans up))
      · exact Or.inl (Option.some.inj (h.symm.trans back))
  refine ⟨_, rfl, ?_, ?_⟩
  · refine ((@isEnabled_nearest inCircles _ rfl .standard "qx=t" "t" rfl 1 rfl).2.1 _).mpr ⟨rfl, ?_⟩
    rintro steps between h ⟨enabled, state⟩
    rcases circle _ rfl rfl steps between h with rfl | rfl
    · cases state
    · cases enabled <;> cases state
  · refine ((@isEnabled_nearest inCircles _ rfl .standard "qx=v" "v" rfl 3 rfl).1 false).mpr ?_
    refine ⟨1, 4, rfl, rfl, ?_⟩
    rintro fewer lt between h ⟨enabled, state⟩
    obtain rfl : fewer = 0 := by omega
    cases h
    cases enabled <;> cases state

end Snapshot

end WidgetLocator
