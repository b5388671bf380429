import WidgetLocator.Proofs.Loading
import WidgetLocator.Proofs.Search.Bound
import WidgetLocator.Proofs.Search.Tags

namespace WidgetLocator
namespace Snapshot

variable {document : SnapshotDocument} {snapshot : Snapshot}

theorem descendantsIn_range (loaded : ofDocument document = .ok snapshot) :
    snapshot.graph.DescendantsIn (Finset.range snapshot.size) := by
  intro node child hc
  exact Finset.mem_range.mpr (descendants_lt loaded hc)

theorem mem_range_of_childNodes (loaded : ofDocument document = .ok snapshot) :
    snapshot.graph.ChildrenIn (Finset.range snapshot.size) := by
  intro node child hc
  obtain ⟨value, hv, ho⟩ := List.mem_filterMap.mp hc
  cases hn : snapshot.nodes[node]? with
  | none => simp [graph, hn] at hv
  | some n =>
    have below := (ofDocument_below loaded n (Array.mem_of_getElem? hn)).children
    simp only [graph, hn, Option.bind_some] at hv
    exact Finset.mem_range.mpr (below value hv child ho)

/-- A guarded search in a loaded snapshot has an end. The calls listed for it are those that it makes.
None of them stands in a descent through a node twice, and none is nested deeper than once for each
step and each node or start. -/
theorem guarded_search_bounded (loaded : ofDocument document = .ok snapshot)
    (registry : Option (TypeRegistry NodeId)) (root : NodeId) (path : Path) :
    let search : PathSearch NodeId := ⟨snapshot.graph, registry, true⟩
    search.Returns root path (search.resolve snapshot.size root path) ∧
    ∀ fuel,
      (search.resolveLogged fuel (PathSearch.firstCall root path)).outcome =
        search.resolveSteps fuel root path.steps [] ∧
      (∀ call, call ∈ (search.resolveLogged fuel (PathSearch.firstCall root path)).calls ↔
        search.Makes fuel (PathSearch.firstCall root path) call) ∧
      ∀ call ∈ (search.resolveLogged fuel (PathSearch.firstCall root path)).calls,
        call.stack.Nodup ∧ call.depth ≤ path.steps.length * (snapshot.size + 1) := by
  intro search
  have finite := descendantsIn_range loaded
  have card : (Finset.range snapshot.size).card = snapshot.size := Finset.card_range _
  have guarded : search.cycleGuard = true := rfl
  refine ⟨?_, fun fuel => ⟨?_, fun call => PathSearch.mem_calls_iff, fun call hc => ?_⟩⟩
  · have ends := PathSearch.resolve_guarded_ne_endless guarded finite root path
    exact PathSearch.returns_of_resolve (card ▸ ends)
  · exact PathSearch.resolveLogged_outcome fuel _
  · have bounded := PathSearch.calls_of_guarded guarded finite hc
    rwa [card] at bounded

/-- A definition of a node that has other nodes as its children. -/
def parentOf (ids : List String) : NodeDefinition where
  className := none
  items := none
  children := some (ids.map fun id => .object [("$ref", .text id)])
  members := .empty
  properties := .empty
  userData := .empty
  element := none
  enabled := none
  parent := none
  executable := false

/-- Two nodes that are children of each other. -/
def mutualParents : SnapshotDocument where
  location := none
  toolkit := none
  application := some "a"
  clientDocument := none
  classes := none
  nodes := ⟨[("a", parentOf ["a", "b"]), ("b", parentOf ["a"])], by decide⟩

theorem guarded_search_bounded_mutualParents :
    ∃ snapshot, ofDocument mutualParents = .ok snapshot ∧
      snapshot.graph.descendants 0 = [1] ∧ snapshot.graph.descendants 1 = [0] ∧
      PathSearch.Returns ⟨snapshot.graph, none, true⟩ 0 ⟨[.wildcard, .index 1], by simp⟩
        (.error (.unresolved [.wildcard])) := by
  obtain ⟨snapshot, loaded⟩ : ∃ snapshot, ofDocument mutualParents = .ok snapshot := ⟨_, rfl⟩
  have bounded := guarded_search_bounded loaded none 0 ⟨[.wildcard, .index 1], by simp⟩
  cases loaded
  exact ⟨_, rfl, rfl, rfl, bounded.1⟩

end Snapshot
end WidgetLocator
