import WidgetLocator.Graph
import WidgetLocator.Path.Step

namespace WidgetLocator
namespace WidgetGraph

variable {ν : Type} [DecidableEq ν] (graph : WidgetGraph ν) (registry : Option (TypeRegistry ν))

/-- The member with a name, unless it is undefined or null. -/
def byMember (node : ν) (name : String) : Option (Value ν) :=
  match graph.member node name with
  | some .undefined => none
  | some .null => none
  | found => found

def byClass (node : ν) (name : String) : Except Error (Option ν) :=
  match registry with
  | none => .error (.registryUnavailable name)
  | some r =>
    match r.classByName name with
    | some c => .ok ((graph.descendants node).find? (r.isInstance · c))
    | none => .ok none

def byIndex (node : ν) (index : Nat) : Option ν :=
  (graph.descendants node)[index]?

/-- Whether the property or member of a node matches a pattern. A declared property has to count
as true for that, and hides a member with its name. -/
def attributeMatches (key : String) (pattern : Pattern) (node : ν) : Bool :=
  match registry.filter (·.hasProperty node key) with
  | some r =>
    let value := r.property node key
    value.isTruthy && pattern.occursIn (graph.stringify value)
  | none =>
    match graph.member node key with
    | some value => pattern.occursIn (graph.stringify value)
    | none => false

/-- The first descendant whose attribute matches, or the object in the attribute of the node
itself if there is no pattern. -/
def byAttribute (node : ν) (step : AttributeStep) : Option ν :=
  match step.predicate with
  | none => none
  | some ⟨key, none⟩ => (graph.generalProperty registry node key).bind Value.object?
  | some ⟨key, some pattern⟩ =>
    (graph.descendants node).find? (graph.attributeMatches registry key pattern)

/-- The value that a step leads to. A wildcard alone leads to the node itself. -/
def takeStep (node : ν) : PathStep → Except Error (Option (Value ν))
  | .wildcard => .ok (some (.object node))
  | .name name =>
    if isClassName name then (graph.byClass registry node name).map (·.map .object)
    else .ok (graph.byMember node name)
  | .index index => .ok ((graph.byIndex node index).map .object)
  | .attr step => .ok ((graph.byAttribute registry node step).map .object)

end WidgetGraph
end WidgetLocator
