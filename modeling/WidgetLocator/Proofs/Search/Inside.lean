import WidgetLocator.Proofs.Search.Loaded
import WidgetLocator.Proofs.Search.Matches
import WidgetLocator.Snapshot.Report

namespace WidgetLocator

variable {ν ε : Type} {P : ν → Prop}

/-- The nodes that can be reached in one step have a property. -/
structure PathSearch.LeadsTo [DecidableEq ν] (search : PathSearch ν) (P : ν → Prop) : Prop where
  descendants : ∀ node, ∀ child ∈ search.graph.descendants node, P child
  member : ∀ node name next, search.graph.member node name = some (.object next) → P next
  property : ∀ registry ∈ search.registry, ∀ node key next,
    registry.property node key = .object next → P next

namespace PathSearch

variable [DecidableEq ν] {search : PathSearch ν} {node next found : ν} {step : PathStep}
  {steps : List PathStep} {above : List ν} {fuel : Nat}

theorem LeadsTo.generalProperty (h : search.LeadsTo P) {key : String}
    (hp : search.graph.generalProperty search.registry node key = some (.object next)) : P next := by
  unfold WidgetGraph.generalProperty at hp
  split at hp
  next registry hr =>
    split at hp
    next => exact h.property registry hr node key next (Option.some.inj hp)
    next => exact h.member node key next hp
  next => exact h.member node key next hp

theorem LeadsTo.byAttribute (h : search.LeadsTo P) {attr : AttributeStep}
    (ha : search.graph.byAttribute search.registry node attr = some next) : P next := by
  unfold WidgetGraph.byAttribute at ha
  split at ha
  next => cases ha
  next key =>
    obtain ⟨value, hp, hv⟩ := Option.bind_eq_some_iff.mp ha
    rw [Value.eq_object_of_object? hv] at hp
    exact h.generalProperty hp
  next => exact h.descendants node next (List.mem_of_find?_eq_some ha)

theorem LeadsTo.takeStep (h : search.LeadsTo P) (hn : P node)
    (ht : search.graph.takeStep search.registry node step = .ok (some (.object next))) : P next := by
  cases step with
  | wildcard =>
    cases ht
    exact hn
  | name name =>
    simp only [WidgetGraph.takeStep] at ht
    split at ht
    next =>
      obtain ⟨child, hc, he⟩ := exists_of_map_eq_ok ht
      obtain ⟨child, rfl, he⟩ := Option.map_eq_some_iff.mp he
      cases he
      unfold WidgetGraph.byClass at hc
      split at hc
      next => cases hc
      next =>
        split at hc
        next => exact h.descendants node next (List.mem_of_find?_eq_some (Except.ok.inj hc))
        next => cases hc
    next =>
      have hm := Except.ok.inj ht
      unfold WidgetGraph.byMember at hm
      split at hm
      next => cases hm
      next => cases hm
      next => exact h.member node name next hm
  | index index =>
    obtain ⟨child, hc, he⟩ := Option.map_eq_some_iff.mp (Except.ok.inj ht)
    cases he
    exact h.descendants node next (List.mem_of_getElem? hc)
  | attr attr =>
    obtain ⟨child, hc, he⟩ := Option.map_eq_some_iff.mp (Except.ok.inj ht)
    cases he
    exact h.byAttribute hc

theorem LeadsTo.of_matches (h : search.LeadsTo P) (hn : P node)
    (hm : search.Matches node steps found) : P found := by
  induction hm with
  | done => exact hn
  | step _ ht _ ih => exact ih (h.takeStep hn ht)
  | stay _ ih => exact ih hn
  | down hc _ ih => exact ih (h.descendants _ _ hc)

theorem LeadsTo.resolveSteps (h : search.LeadsTo P) (hn : P node)
    (hr : search.resolveSteps fuel node steps above = .ok (some found)) : P found :=
  h.of_matches hn (matches_of_found hr)

end PathSearch

namespace WidgetGraph

variable {graph : WidgetGraph ν} {node found : ν} {tag : String} {fuel : Nat}

theorem searchTag_inside (inside : ∀ node, ∀ child ∈ graph.childNodes node, P child)
    (h : graph.searchTag fuel node tag = .ok (some found)) : P found := by
  induction fuel generalizing node with
  | zero => cases h
  | succ fuel ih =>
    rw [searchTag_add_one] at h
    obtain ⟨child, hc, hf⟩ := exists_of_firstTagged h nofun
    unfold tagAtOrBelow at hf
    split at hf
    next =>
      cases hf
      exact inside node _ hc
    next => exact ih hf

theorem findTags_inside (inside : ∀ node, ∀ child ∈ graph.childNodes node, P child) (hn : P node)
    {nodes : Nat} {tags : List String} (h : graph.findTags nodes node tags = .ok (some found)) :
    P found := by
  induction tags generalizing node with
  | nil =>
    cases h
    exact hn
  | cons tag tags ih =>
    unfold findTags at h
    split at h
    next next hf => exact ih (searchTag_inside inside hf) h
    next outcome other => exact absurd h (other found)

end WidgetGraph

namespace Dispatcher

variable [DecidableEq ν] {dispatcher : Dispatcher ν ε} {found : ν}

/-- All nodes that a locator can lead to have a property. -/
structure LeadsTo (dispatcher : Dispatcher ν ε) (P : ν → Prop) : Prop where
  search : dispatcher.pathSearch.LeadsTo P
  children : ∀ node, ∀ child ∈ dispatcher.window.graph.childNodes node, P child
  application : ∀ root ∈ dispatcher.window.application, P root
  clientRoot : ∀ root ∈ dispatcher.window.clientRoot, P root

theorem LeadsTo.findTagged (h : dispatcher.LeadsTo P) {path : String}
    (hf : dispatcher.findTagged path = .ok (some found)) : P found := by
  unfold Dispatcher.findTagged at hf
  dsimp only at hf
  split at hf
  next =>
    split at hf
    next root hr => exact WidgetGraph.findTags_inside h.children (h.clientRoot root hr) hf
    next => cases hf
  next => cases hf

theorem LeadsTo.hierarchyStart (h : dispatcher.LeadsTo P) {root : HierarchyRoot} {start : ν}
    (hs : dispatcher.hierarchyStart root = some start) : P start := by
  cases root with
  | application => exact h.application start hs
  | clientDocument => exact h.clientRoot start hs

theorem LeadsTo.findInHierarchy (h : dispatcher.LeadsTo P) {root : HierarchyRoot} {path : Path}
    (hf : dispatcher.findInHierarchy root path = .ok (some found)) : P found := by
  unfold Dispatcher.findInHierarchy at hf
  split at hf
  next =>
    split at hf
    next start hs =>
      split at hf
      next outcome hr =>
        cases hf
        exact h.search.resolveSteps (h.hierarchyStart hs) hr
      next => cases hf
      next => cases hf
    next => cases hf
  next => cases hf

theorem LeadsTo.locateObject (h : dispatcher.LeadsTo P) {locator : QxLocator}
    (hl : dispatcher.locateObject locator = .ok (some found)) : P found := by
  cases locator with
  | tag path | tagObject path => exact h.findTagged hl
  | tagXPath path xpath => cases hl
  | hierarchy root path => exact h.findInHierarchy hl

end Dispatcher

namespace Snapshot

variable {document : SnapshotDocument} {snapshot : Snapshot}

theorem mem_of_field? {fields : List (String × Value NodeId)} {key : String} {value : Value NodeId}
    (h : field? fields key = some value) : (key, value) ∈ fields := by
  obtain ⟨⟨name, _⟩, hf, rfl⟩ := Option.map_eq_some_iff.mp h
  obtain rfl : name = key := by simpa using List.find?_some hf
  exact List.mem_of_find?_eq_some hf

theorem member_lt (loaded : ofDocument document = .ok snapshot) {node next : NodeId} {name : String}
    (h : snapshot.graph.member node name = some (.object next)) : next < snapshot.size := by
  have entry : (name, .object next) ∈ snapshot.graph.members node := mem_of_field? h
  cases hn : snapshot.nodes[node]? with
  | none => simp [graph, hn] at entry
  | some n =>
    simp only [graph, hn, Option.map_some, Option.getD_some] at entry
    exact (ofDocument_below loaded n (Array.mem_of_getElem? hn)).members _ entry next rfl

theorem property_lt (loaded : ofDocument document = .ok snapshot) {node next : NodeId} {key : String}
    (h : snapshot.typeRegistry.property node key = .object next) : next < snapshot.size := by
  cases hp : snapshot.nodes[node]?.bind fun n => field? n.properties key with
  | none => simp [typeRegistry, hp] at h
  | some value =>
    obtain ⟨n, hn, hf⟩ := Option.bind_eq_some_iff.mp hp
    obtain rfl : value = .object next := by simpa [typeRegistry, hp] using h
    exact properties_below loaded n (Array.mem_of_getElem? hn) _ (mem_of_field? hf) next rfl

theorem root_lt {root : NodeId} {roots : Option NodeId} {id : Option String}
    (named : Option.Rel snapshot.Names roots id) (h : root ∈ roots) : root < snapshot.size := by
  cases named with
  | none => cases h
  | some named =>
    cases h
    exact named.1

theorem leadsTo_lt (loaded : ofDocument document = .ok snapshot) (configuration : Configuration) :
    (snapshot.dispatcher configuration).LeadsTo (· < snapshot.size) where
  search := {
    descendants := fun _ _ => descendants_lt loaded
    member := fun _ _ _ => member_lt loaded
    property := by
      intro registry hr node key next hp
      obtain ⟨_, rfl⟩ := Option.ite_some_none_eq_some.mp (Option.mem_def.mp hr)
      exact property_lt loaded hp }
  children := fun node child hc => Finset.mem_range.mp (mem_range_of_childNodes loaded node child hc)
  application := fun _ => root_lt (faithful_of_ofDocument loaded).application
  clientRoot := by
    intro root hr
    refine root_lt (faithful_of_ofDocument loaded).clientDocument ?_
    exact (Option.ite_none_right_eq_some.mp (Option.mem_def.mp hr)).2

/-- What a locator leads to in a loaded snapshot is the node with its name. -/
theorem node?_of_locateObject (loaded : ofDocument document = .ok snapshot)
    {configuration : Configuration} {locator : QxLocator} {node : Option NodeId}
    (h : (snapshot.dispatcher configuration).locateObject locator = .ok node) :
    (node.map snapshot.idOf).bind snapshot.node? = node := by
  cases node with
  | none => rfl
  | some found =>
    have inside := (leadsTo_lt loaded configuration).locateObject h
    exact (faithful_of_ofDocument loaded).node?_idOf found inside

end Snapshot
end WidgetLocator
