import WidgetLocator.Proofs.Results
import WidgetLocator.Proofs.Search.Window
import Mathlib.Logic.Function.Basic

namespace WidgetLocator

variable {ν μ ε : Type}

/-- A value with its node renamed. -/
def Value.map (f : ν → μ) : Value ν → Value μ
  | undefined => undefined
  | null => null
  | bool b => bool b
  | number x => number x
  | text t => text t
  | object node => object (f node)

/-- A named value with its node renamed. -/
def Value.mapField (f : ν → μ) (entry : String × Value ν) : String × Value μ :=
  (entry.1, entry.2.map f)

section Values

variable (f : ν → μ) (value : Value ν)

@[simp]
theorem Value.object?_map : (value.map f).object? = value.object?.map f := by
  cases value <;> rfl

@[simp]
theorem Value.isTruthy_map : (value.map f).isTruthy = value.isTruthy := by
  cases value <;> rfl

theorem objects_map (values : List (Value ν)) :
    (values.map (Value.map f)).filterMap Value.object? = (values.filterMap Value.object?).map f := by
  rw [List.filterMap_map, List.map_filterMap]
  exact congrArg (List.filterMap · values) (funext fun value => Value.object?_map f value)

theorem textOf_map {display : ν → String} {larger : μ → String}
    (same : ∀ node, larger (f node) = display node) :
    textOf larger (value.map f) = textOf display value := by
  cases value with
  | object node => exact same node
  | _ => rfl

theorem field?_mapField (fields : List (String × Value ν)) (key : String) :
    field? (fields.map (Value.mapField f)) key = (field? fields key).map (Value.map f) := by
  rw [field?, List.find?_map, field?, Option.map_map, Option.map_map]
  rfl

end Values

/-- What a graph says about its nodes, a larger one says about the renamed nodes. -/
structure WidgetGraph.Embeds (f : ν → μ) (graph : WidgetGraph ν) (larger : WidgetGraph μ) :
    Prop where
  injective : Function.Injective f
  items : ∀ node, larger.items (f node) = (graph.items node).map (List.map (Value.map f))
  children : ∀ node, larger.children (f node) = (graph.children node).map (List.map (Value.map f))
  members : ∀ node, larger.members (f node) = (graph.members node).map (Value.mapField f)
  member : ∀ node name, larger.member (f node) name = (graph.member node name).map (Value.map f)
  userData : ∀ node key, larger.userData (f node) key = (graph.userData node key).map f
  display : ∀ node, larger.display (f node) = graph.display node
  stringify : ∀ value, larger.stringify (value.map f) = graph.stringify value

/-- What a registry says about nodes, another one says about the renamed nodes. -/
structure TypeRegistry.Embeds (f : ν → μ) (registry : TypeRegistry ν) (larger : TypeRegistry μ) :
    Prop where
  classByName : larger.classByName = registry.classByName
  isInstance : ∀ node c, larger.isInstance (f node) c = registry.isInstance node c
  hasProperty : ∀ node key, larger.hasProperty (f node) key = registry.hasProperty node key
  property : ∀ node key, larger.property (f node) key = (registry.property node key).map f

/-- What a window shows, another one shows at the renamed nodes. -/
structure HostWindow.Embeds (f : ν → μ) (window : HostWindow ν ε) (larger : HostWindow μ ε) :
    Prop where
  graph : window.graph.Embeds f larger.graph
  toolkit : larger.toolkit = window.toolkit
  application : larger.application = window.application.map f
  clientRoot : larger.clientRoot = window.clientRoot.map f
  registry : Option.Rel (TypeRegistry.Embeds f) window.registry larger.registry
  elementOf : ∀ node, larger.elementOf (f node) = window.elementOf node
  locateXPath : larger.locateXPath = window.locateXPath

namespace WidgetGraph

variable {f : ν → μ} {graph : WidgetGraph ν} {larger : WidgetGraph μ}
variable {registry : Option (TypeRegistry ν)} {largerRegistry : Option (TypeRegistry μ)}

section Nodes

variable (h : graph.Embeds f larger)

include h

theorem Embeds.contents (node : ν) :
    larger.contents (f node) = (graph.contents node).map (Value.map f) := by
  unfold WidgetGraph.contents
  rw [h.items, h.children, h.members]
  cases graph.items node with
  | some items => rfl
  | none =>
    cases graph.children node with
    | some children => rfl
    | none => simp [Function.comp_def, Value.mapField]

theorem Embeds.descendants [DecidableEq ν] [DecidableEq μ] (node : ν) :
    larger.descendants (f node) = (graph.descendants node).map f := by
  have other : (fun child => decide (f child ≠ f node)) = fun child => decide (child ≠ node) := by
    funext child
    simp [h.injective.eq_iff]
  rw [WidgetGraph.descendants, h.contents, objects_map, List.filter_map, Function.comp_def, other]
  rfl

theorem Embeds.childNodes (node : ν) :
    larger.childNodes (f node) = (graph.childNodes node).map f := by
  rw [WidgetGraph.childNodes, h.children, WidgetGraph.childNodes, ← objects_map]
  cases graph.children node <;> rfl

end Nodes

section Steps

variable (h : graph.Embeds f larger) (hr : Option.Rel (TypeRegistry.Embeds f) registry largerRegistry)

include h hr

theorem Embeds.generalProperty (node : ν) (key : String) :
    larger.generalProperty largerRegistry (f node) key =
      (graph.generalProperty registry node key).map (Value.map f) := by
  cases hr with
  | none => exact h.member node key
  | some hr =>
    unfold WidgetGraph.generalProperty
    simp only [hr.hasProperty, hr.property, h.member]
    split <;> rfl

theorem Embeds.attributeMatches (key : String) (pattern : Pattern) (node : ν) :
    larger.attributeMatches largerRegistry key pattern (f node) =
      graph.attributeMatches registry key pattern node := by
  have member := h.member node key
  unfold WidgetGraph.attributeMatches
  rw [member]
  cases hr with
  | none => cases graph.member node key <;> simp [h.stringify]
  | @some registry largerRegistry hr =>
    simp only [Option.filter_some, hr.hasProperty]
    cases registry.hasProperty node key with
    | false => cases graph.member node key <;> simp [h.stringify]
    | true => simp [hr.property, h.stringify]

variable [DecidableEq ν] [DecidableEq μ]

theorem Embeds.byClass (node : ν) (name : String) :
    larger.byClass largerRegistry (f node) name =
      (graph.byClass registry node name).map (Option.map f) := by
  cases hr with
  | none => rfl
  | @some registry largerRegistry hr =>
    unfold WidgetGraph.byClass
    simp only [hr.classByName]
    cases registry.classByName name with
    | none => rfl
    | some c =>
      have instances : (largerRegistry.isInstance · c) ∘ f = (registry.isInstance · c) :=
        funext fun node => hr.isInstance node c
      simp only [h.descendants, List.find?_map, instances]
      rfl

theorem Embeds.byAttribute (node : ν) (step : AttributeStep) :
    larger.byAttribute largerRegistry (f node) step =
      (graph.byAttribute registry node step).map f := by
  unfold WidgetGraph.byAttribute
  split
  next => rfl
  next key _ =>
    rw [h.generalProperty hr]
    cases graph.generalProperty registry node key <;> simp
  next key pattern _ =>
    have matching : larger.attributeMatches largerRegistry key pattern ∘ f =
        graph.attributeMatches registry key pattern :=
      funext fun node => h.attributeMatches hr key pattern node
    rw [h.descendants, List.find?_map, matching]

theorem Embeds.takeStep (node : ν) (step : PathStep) :
    larger.takeStep largerRegistry (f node) step =
      (graph.takeStep registry node step).map (Option.map (Value.map f)) := by
  cases step with
  | wildcard => rfl
  | name name =>
    unfold WidgetGraph.takeStep
    by_cases hc : isClassName name = true
    · simp only [hc, if_true, h.byClass hr]
      rcases graph.byClass registry node name with e | _ | found <;> rfl
    · simp only [hc, WidgetGraph.byMember, h.member]
      rcases graph.member node name with _ | value
      · rfl
      · cases value <;> rfl
  | index index =>
    simp only [WidgetGraph.takeStep, byIndex, h.descendants, List.getElem?_map, Except.map]
    cases (graph.descendants node)[index]? <;> rfl
  | attr step =>
    simp only [WidgetGraph.takeStep, h.byAttribute hr, Except.map]
    cases graph.byAttribute registry node step <;> rfl

end Steps

/-- A search below a renamed node takes the same turns. -/
theorem Embeds.firstTagged {first : ν → Except Error (Option ν)}
    {second : μ → Except Error (Option μ)} {nodes : List ν}
    (agree : ∀ node, second (f node) = (first node).map (Option.map f)) :
    firstTagged second (nodes.map f) = (firstTagged first nodes).map (Option.map f) := by
  induction nodes with
  | nil => rfl
  | cons node nodes ih =>
    have he := agree node
    by_cases hn : first node = .ok none
    · rw [List.map_cons, firstTagged_cons_of_none hn, ← ih]
      exact firstTagged_cons_of_none (by rw [he, hn]; rfl)
    · rw [List.map_cons, firstTagged_cons_of_ne_none hn, ← he]
      refine firstTagged_cons_of_ne_none fun hm => hn ?_
      rw [he] at hm
      rcases hf : first node with e | _ | found
      · simp [hf, Except.map] at hm
      · rfl
      · simp [hf, Except.map] at hm

theorem Embeds.searchTag (h : graph.Embeds f larger) (fuel : Nat) (node : ν) (tag : String) :
    larger.searchTag fuel (f node) tag = (graph.searchTag fuel node tag).map (Option.map f) := by
  induction fuel generalizing node with
  | zero => rfl
  | succ fuel ih =>
    rw [searchTag_add_one, searchTag_add_one, h.childNodes]
    refine Embeds.firstTagged fun child => ?_
    unfold tagAtOrBelow
    rw [h.userData, Value.isTruthy_map, ih]
    split <;> rfl

theorem Embeds.findTags (h : graph.Embeds f larger) (nodes : Nat) (node : ν) (tags : List String) :
    larger.findTags nodes (f node) tags = (graph.findTags nodes node tags).map (Option.map f) := by
  induction tags generalizing node with
  | nil => rfl
  | cons tag tags ih =>
    have first : larger.findTag nodes (f node) tag =
        (graph.findTag nodes node tag).map (Option.map f) := h.searchTag _ node tag
    simp only [WidgetGraph.findTags, first]
    rcases graph.findTag nodes node tag with e | _ | found
    · rfl
    · rfl
    · exact ih found

end WidgetGraph

section Outcomes

variable {f : ν → μ}

theorem isMiss_map_iff {outcome : Resolution ν} :
    IsMiss (outcome.map (Option.map f)) ↔ IsMiss outcome := by
  rcases outcome with (steps | e) | (_ | node) <;> simp [IsMiss, Except.map]

theorem firstFound_map {first : ν → Resolution ν} {second : μ → Resolution μ} {branches : List ν}
    (agree : ∀ branch, second (f branch) = (first branch).map (Option.map f)) :
    firstFound second (branches.map f) = (firstFound first branches).map (Option.map f) := by
  induction branches with
  | nil => rfl
  | cons branch branches ih =>
    have he := agree branch
    have miss : IsMiss (second (f branch)) ↔ IsMiss (first branch) := he ▸ isMiss_map_iff
    by_cases hm : IsMiss (first branch)
    · rw [List.map_cons, firstFound_cons_of_isMiss hm, firstFound_cons_of_isMiss (miss.mpr hm), ih]
    · rw [List.map_cons, firstFound_cons_of_not_isMiss hm,
        firstFound_cons_of_not_isMiss (miss.not.mpr hm), he]

theorem wildcardOutcome_map (outcome : Resolution ν) :
    wildcardOutcome (outcome.map (Option.map f)) = (wildcardOutcome outcome).map (Option.map f) := by
  rcases outcome with (steps | e) | (_ | node) <;> rfl

theorem afterStep_map (step : PathStep) (outcome : Resolution ν) :
    afterStep step (outcome.map (Option.map f)) = (afterStep step outcome).map (Option.map f) := by
  rcases outcome with (steps | e) | (_ | node) <;> rfl

end Outcomes

namespace PathSearch

variable {f : ν → μ} {search : PathSearch ν} {larger : PathSearch μ}

structure Embeds (f : ν → μ) (search : PathSearch ν) (larger : PathSearch μ) : Prop where
  graph : search.graph.Embeds f larger.graph
  registry : Option.Rel (TypeRegistry.Embeds f) search.registry larger.registry
  cycleGuard : larger.cycleGuard = search.cycleGuard

theorem Embeds.pushed (h : search.Embeds f larger) (node : ν) (above : List ν) :
    larger.pushed (f node) (above.map f) = (search.pushed node above).map f := by
  unfold PathSearch.pushed
  rw [h.cycleGuard]
  split <;> rfl

variable [DecidableEq ν] [DecidableEq μ]

theorem Embeds.below (h : search.Embeds f larger) (node : ν) (above : List ν) :
    larger.below (f node) (above.map f) = (search.below node above).map f := by
  unfold PathSearch.below
  rw [h.cycleGuard, h.pushed, h.graph.descendants, List.filter_map]
  congr 2
  funext child
  simp [h.graph.injective.eq_iff]

theorem Embeds.resolveSteps (h : search.Embeds f larger) (fuel : Nat) (node : ν)
    (steps : List PathStep) (above : List ν) :
    larger.resolveSteps fuel (f node) steps (above.map f) =
      (search.resolveSteps fuel node steps above).map (Option.map f) := by
  induction fuel generalizing node steps above with
  | zero => rfl
  | succ fuel ih =>
    have taken := h.graph.takeStep h.registry node
    cases search.turn node steps with
    | done | loneWildcard => rfl
    | failure hs ht =>
      rw [resolveSteps_of_error hs ht]
      exact resolveSteps_of_error hs (by rw [taken, ht]; rfl)
    | nothing hs ht =>
      rw [resolveSteps_of_nothing hs ht]
      exact resolveSteps_of_nothing hs (by rw [taken, ht]; rfl)
    | @scalar step rest value hs ht hv =>
      rw [resolveSteps_of_scalar hs ht hv]
      have renamed : larger.graph.takeStep larger.registry (f node) step =
          .ok (some (value.map f)) := by
        rw [taken, ht]
        rfl
      have scalar : (value.map f).object? = none := by
        rw [Value.object?_map, hv]
        rfl
      exact resolveSteps_of_scalar hs renamed scalar
    | last hs ht =>
      rw [resolveSteps_of_last hs ht]
      exact resolveSteps_of_last hs (by rw [taken, ht]; rfl)
    | @object step rest next hs hne ht =>
      have renamed : larger.graph.takeStep larger.registry (f node) step =
          .ok (some (.object (f next))) := by
        rw [taken, ht]
        rfl
      rw [resolveSteps_of_object hs hne ht, resolveSteps_of_object hs hne renamed, ← afterStep_map]
      exact congrArg (afterStep step) (ih next rest [])
    | @wildcard rest hne =>
      have hr : larger.resolveSteps fuel (f node) rest [] =
          (search.resolveSteps fuel node rest []).map (Option.map f) := ih node rest []
      have miss : IsMiss (larger.resolveSteps fuel (f node) rest []) ↔
          IsMiss (search.resolveSteps fuel node rest []) := hr ▸ isMiss_map_iff
      by_cases hm : IsMiss (search.resolveSteps fuel node rest [])
      · rw [resolveSteps_wildcard_of_isMiss hne hm,
          resolveSteps_wildcard_of_isMiss hne (miss.mpr hm), ← wildcardOutcome_map, h.below, h.pushed]
        congr 1
        exact firstFound_map fun child => ih child _ _
      · rw [resolveSteps_wildcard_of_not_isMiss hne hm,
          resolveSteps_wildcard_of_not_isMiss hne (miss.not.mpr hm), hr]

end PathSearch

namespace Dispatcher

variable {f : ν → μ} {dispatcher : Dispatcher ν ε} {larger : Dispatcher μ ε}

/-- A dispatcher for a larger window with the same settings. -/
structure Embeds (f : ν → μ) (dispatcher : Dispatcher ν ε) (larger : Dispatcher μ ε) : Prop where
  window : dispatcher.window.Embeds f larger.window
  configuration : larger.configuration = dispatcher.configuration

/-- The element that is shown for what a locator leads to. -/
def shown (dispatcher : Dispatcher ν ε) : Option (Located ν ε) → Option ε
  | some (.element element) => some element
  | some (.object node) => dispatcher.window.elementOf node
  | none => none

theorem findElement_of_parse [DecidableEq ν] {text : String} {locator : QxLocator}
    (h : Locator.parse text = .ok (.qx locator)) :
    dispatcher.findElement text = (dispatcher.locate locator).map dispatcher.shown := by
  unfold findElement
  rw [h]
  rfl

theorem Embeds.findTagged (h : dispatcher.Embeds f larger) (n : Nat) (path : String) :
    (larger.within n).findTagged path =
      ((dispatcher.within n).findTagged path).map (Option.map f) := by
  have toolkit : (larger.within n).window.toolkit = (dispatcher.within n).window.toolkit :=
    h.window.toolkit
  have root : (larger.within n).window.clientRoot = (dispatcher.within n).window.clientRoot.map f :=
    h.window.clientRoot
  simp only [Dispatcher.findTagged, toolkit, root]
  split
  · cases (dispatcher.within n).window.clientRoot with
    | none => rfl
    | some start => exact h.window.graph.findTags n start _
  · rfl

theorem Embeds.elementOf? (h : dispatcher.Embeds f larger) (n : Nat) (node : Option ν) :
    (larger.within n).elementOf? (node.map f) = (dispatcher.within n).elementOf? node := by
  cases node with
  | none => rfl
  | some node => exact h.window.elementOf node

variable [DecidableEq ν] [DecidableEq μ]

theorem Embeds.findInHierarchy (h : dispatcher.Embeds f larger) (n : Nat) (root : HierarchyRoot)
    (path : Path) :
    (larger.within n).findInHierarchy root path =
      ((dispatcher.within n).findInHierarchy root path).map (Option.map f) := by
  have toolkit : (larger.within n).window.toolkit = (dispatcher.within n).window.toolkit :=
    h.window.toolkit
  have start : (larger.within n).hierarchyStart root =
      ((dispatcher.within n).hierarchyStart root).map f := by
    cases root with
    | application => exact h.window.application
    | clientDocument => exact h.window.clientRoot
  have search : dispatcher.pathSearch.Embeds f larger.pathSearch :=
    ⟨h.window.graph, h.window.registry, congrArg Configuration.cycleGuard h.configuration⟩
  simp only [Dispatcher.findInHierarchy, toolkit, start]
  split
  · cases (dispatcher.within n).hierarchyStart root with
    | none => rfl
    | some node =>
      have resolved : (larger.within n).pathSearch.resolve n (f node) path =
          ((dispatcher.within n).pathSearch.resolve n node path).map (Option.map f) :=
        search.resolveSteps _ node path.steps []
      have same : ∀ outcome : Resolution ν, ofResolution (outcome.map (Option.map f)) =
          (ofResolution outcome).map (Option.map f) := by
        rintro ((steps | e) | found) <;> rfl
      exact (congrArg ofResolution resolved).trans (same _)
  · rfl

theorem Embeds.locateObject (h : dispatcher.Embeds f larger) (n : Nat) (locator : QxLocator) :
    (larger.within n).locateObject locator =
      ((dispatcher.within n).locateObject locator).map (Option.map f) := by
  cases locator with
  | tag path | tagObject path => exact h.findTagged n path
  | tagXPath path xpath => rfl
  | hierarchy root path => exact h.findInHierarchy n root path

theorem Embeds.shown (h : dispatcher.Embeds f larger) (n : Nat) (locator : QxLocator) :
    ((larger.within n).locate locator).map larger.shown =
      ((dispatcher.within n).locate locator).map dispatcher.shown := by
  cases locator with
  | tag path =>
    simp only [locate, h.findTagged]
    rcases (dispatcher.within n).findTagged path with e | node
    · rfl
    · simp only [Except.map, h.elementOf?]
      cases (dispatcher.within n).elementOf? node <;> rfl
  | tagObject path =>
    simp only [locate, h.findTagged]
    rcases (dispatcher.within n).findTagged path with e | _ | node
    · rfl
    · rfl
    · exact congrArg Except.ok (h.window.elementOf node)
  | tagXPath path xpath =>
    have xpaths : (larger.within n).window.locateXPath = (dispatcher.within n).window.locateXPath :=
      h.window.locateXPath
    have configuration : (larger.within n).configuration = (dispatcher.within n).configuration :=
      h.configuration
    simp only [locate, h.findTagged]
    rcases (dispatcher.within n).findTagged path with e | node
    · rfl
    · simp only [Except.map, h.elementOf?, xpaths, configuration]
      cases (dispatcher.within n).elementOf? node with
      | none => rfl
      | some context =>
        simp only
        rcases (dispatcher.within n).window.locateXPath _ context with e | _ | element <;> rfl
  | hierarchy root path =>
    simp only [locate, h.findInHierarchy]
    rcases (dispatcher.within n).findInHierarchy root path with e | node
    · rfl
    · simp only [Except.map, h.elementOf?]
      cases (dispatcher.within n).elementOf? node <;> rfl

/-- In a larger window a locator leads to what it leads to in the smaller one, if following it
there has an end. -/
theorem Embeds.of_ends (h : dispatcher.Embeds f larger) {nodes : Finset ν} {moreNodes : Finset μ}
    (counts : dispatcher.window.CountsNodes nodes) (more : larger.window.CountsNodes moreNodes)
    {locator : QxLocator} (ends : dispatcher.Ends locator) :
    larger.locateObject locator = (dispatcher.locateObject locator).map (Option.map f) ∧
      (larger.locate locator).map larger.shown =
        (dispatcher.locate locator).map dispatcher.shown ∧
      larger.Ends locator := by
  obtain ⟨n, hn⟩ := ends
  have hn' : (larger.within n).locate locator ≠ .error .endless := by
    intro he
    have shown := h.shown n locator
    rw [he] at shown
    exact hn (map_eq_error_iff.mp shown.symm)
  obtain ⟨located, object⟩ := locate_of_within counts hn
  obtain ⟨located', object'⟩ := locate_of_within more hn'
  rw [located, located', object, object']
  exact ⟨h.locateObject n locator, h.shown n locator, n, hn'⟩

end Dispatcher
end WidgetLocator
