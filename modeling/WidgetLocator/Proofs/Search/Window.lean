import WidgetLocator.Host.Dispatch
import WidgetLocator.Proofs.Search.Depth
import WidgetLocator.Proofs.Search.Tags

namespace WidgetLocator

variable {ν ε : Type}

/-- The window counts at least the nodes that can be reached in it. -/
structure HostWindow.CountsNodes [DecidableEq ν] (window : HostWindow ν ε) (nodes : Finset ν) :
    Prop where
  descendants : window.graph.DescendantsIn nodes
  children : window.graph.ChildrenIn nodes
  card : nodes.card ≤ window.nodes

namespace Dispatcher

/-- The same dispatcher for a window that is said to have some number of nodes, which only says how
deep searches in it can be. -/
def within (dispatcher : Dispatcher ν ε) (nodes : Nat) : Dispatcher ν ε :=
  ⟨{ dispatcher.window with nodes := nodes }, dispatcher.configuration⟩

theorem within_self (dispatcher : Dispatcher ν ε) :
    dispatcher.within dispatcher.window.nodes = dispatcher :=
  rfl

/-- There is nothing to search, or a search for tags from a root. -/
theorem findTagged_within (dispatcher : Dispatcher ν ε) (path : String) :
    (∀ n, (dispatcher.within n).findTagged path = .ok none) ∨
      ∃ root, ∀ n, (dispatcher.within n).findTagged path =
        dispatcher.window.graph.findTags n root (WidgetGraph.tagsOf path) := by
  cases ht : dispatcher.window.toolkit with
  | false => exact Or.inl fun n => by simp [findTagged, within, ht]
  | true =>
    cases hr : dispatcher.window.clientRoot with
    | none =>
      have none : ∀ n, (dispatcher.within n).window.clientRoot = none := fun _ => hr
      exact Or.inl fun n => by simp [findTagged, none]
    | some root =>
      have some : ∀ n, (dispatcher.within n).window.clientRoot = some root := fun _ => hr
      have toolkit : ∀ n, (dispatcher.within n).window.toolkit = true := fun _ => ht
      exact Or.inr ⟨root, fun n => by simp only [findTagged, toolkit, some, if_true]; rfl⟩

variable [DecidableEq ν]

/-- Following a locator comes to an end, at some depth. -/
def Ends (dispatcher : Dispatcher ν ε) (locator : QxLocator) : Prop :=
  ∃ nodes, (dispatcher.within nodes).locate locator ≠ .error .endless

variable {dispatcher : Dispatcher ν ε} {nodes : Finset ν} {n : Nat}

theorem findTagged_of_within (counts : dispatcher.window.CountsNodes nodes) {path : String}
    (h : (dispatcher.within n).findTagged path ≠ .error .endless) :
    dispatcher.findTagged path = (dispatcher.within n).findTagged path := by
  rw [← within_self dispatcher]
  rcases dispatcher.findTagged_within path with none | ⟨root, search⟩
  · exact (none _).trans (none n).symm
  · rw [search n] at h
    exact (search _).trans ((WidgetGraph.findTags_eq_of_ends counts.children h counts.card).trans
      (search n).symm)

/-- What a search for a path comes to as the search of a window. -/
def ofResolution : Resolution ν → Except Error (Option ν)
  | .ok found => .ok found
  | .error (.unresolved _) => .ok none
  | .error (.fatal e) => .error e

theorem findInHierarchy_within (dispatcher : Dispatcher ν ε) (root : HierarchyRoot) (path : Path) :
    (∀ n, (dispatcher.within n).findInHierarchy root path = .ok none) ∨
      ∃ start, ∀ n, (dispatcher.within n).findInHierarchy root path =
        ofResolution (dispatcher.pathSearch.resolve n start path) := by
  cases ht : dispatcher.window.toolkit with
  | false => exact Or.inl fun n => by simp [findInHierarchy, within, ht]
  | true =>
    cases hr : dispatcher.hierarchyStart root with
    | none =>
      have none : ∀ n, (dispatcher.within n).hierarchyStart root = none := by
        intro n
        rw [← hr]
        cases root <;> rfl
      exact Or.inl fun n => by simp [findInHierarchy, none]
    | some start =>
      have some : ∀ n, (dispatcher.within n).hierarchyStart root = some start := by
        intro n
        rw [← hr]
        cases root <;> rfl
      have toolkit : ∀ n, (dispatcher.within n).window.toolkit = true := fun _ => ht
      refine Or.inr ⟨start, fun n => ?_⟩
      simp only [findInHierarchy, toolkit, some, if_true]
      rfl

theorem findInHierarchy_of_within (counts : dispatcher.window.CountsNodes nodes)
    {root : HierarchyRoot} {path : Path}
    (h : (dispatcher.within n).findInHierarchy root path ≠ .error .endless) :
    dispatcher.findInHierarchy root path = (dispatcher.within n).findInHierarchy root path := by
  rw [← within_self dispatcher]
  rcases dispatcher.findInHierarchy_within root path with none | ⟨start, search⟩
  · exact (none _).trans (none n).symm
  · rw [search n] at h
    have ends : dispatcher.pathSearch.resolve n start path ≠ endless := by
      intro he
      simp [he, ofResolution] at h
    have same : dispatcher.pathSearch.resolve dispatcher.window.nodes start path =
        dispatcher.pathSearch.resolve n start path :=
      PathSearch.resolve_eq_of_returns counts.descendants (PathSearch.returns_of_resolve ends)
        counts.card
    exact (search _).trans ((congrArg ofResolution same).trans (search n).symm)

theorem locateObject_ne_endless {locator : QxLocator}
    (h : dispatcher.locate locator ≠ .error .endless) :
    dispatcher.locateObject locator ≠ .error .endless := by
  intro he
  cases locator with
  | tag path | tagObject path | hierarchy root path =>
    simp only [locateObject] at he
    exact h (by simp [locate, he, Except.map])
  | tagXPath path xpath => simp [locateObject] at he

/-- A locator whose following has an end at some depth has it at the depth for the window, where it
leads to the same. -/
theorem locate_of_within (counts : dispatcher.window.CountsNodes nodes) {locator : QxLocator}
    (h : (dispatcher.within n).locate locator ≠ .error .endless) :
    dispatcher.locate locator = (dispatcher.within n).locate locator ∧
      dispatcher.locateObject locator = (dispatcher.within n).locateObject locator := by
  cases locator with
  | tag path =>
    have ends : (dispatcher.within n).findTagged path ≠ .error .endless :=
      fun he => h (by simp [locate, he, Except.map])
    have same := findTagged_of_within counts ends
    exact ⟨by simp only [locate, same]; rfl, same⟩
  | tagObject path =>
    have ends : (dispatcher.within n).findTagged path ≠ .error .endless :=
      fun he => h (by simp [locate, he, Except.map])
    have same := findTagged_of_within counts ends
    exact ⟨by simp only [locate, same], same⟩
  | tagXPath path xpath =>
    have ends : (dispatcher.within n).findTagged path ≠ .error .endless :=
      fun he => h (by simp [locate, he])
    have same := findTagged_of_within counts ends
    exact ⟨by simp only [locate, same]; rfl, rfl⟩
  | hierarchy root path =>
    have ends : (dispatcher.within n).findInHierarchy root path ≠ .error .endless :=
      fun he => h (by simp [locate, he, Except.map])
    have same := findInHierarchy_of_within counts ends
    exact ⟨by simp only [locate, same]; rfl, same⟩

end Dispatcher
end WidgetLocator
