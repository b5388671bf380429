import WidgetLocator.Graph.Value

namespace WidgetLocator

/-- Whether a widget is enabled; `inherit` leaves it to the parent. -/
inductive EnabledState where
  | enabled
  | disabled
  | inherit
deriving DecidableEq, Repr, Inhabited

def EnabledState.name : EnabledState → String
  | enabled => "enabled"
  | disabled => "disabled"
  | inherit => "inherit"

def EnabledState.ofName? : String → Option EnabledState
  | "enabled" => some enabled
  | "disabled" => some disabled
  | "inherit" => some inherit
  | _ => none

/-- The text of a node without a class. -/
def plainObjectText : String :=
  "[object Object]"

/-- The text of a value, given those of the nodes. -/
def textOf {ν : Type} (display : ν → String) : Value ν → String
  | .object node => display node
  | value => value.scalarText.getD ""

/-- What a graph says about its nodes. A node offers what it happens to have: items, children,
members, user data. A graph may have its own way to look up a member and to write a value. -/
structure WidgetGraph (ν : Type) where
  items : ν → Option (List (Value ν)) := fun _ => none
  children : ν → Option (List (Value ν)) := fun _ => none
  members : ν → List (String × Value ν)
  member : ν → String → Option (Value ν) := fun node name =>
    ((members node).find? (·.1 == name)).map (·.2)
  userData : ν → String → Value ν := fun _ _ => .undefined
  enabledState : ν → Option EnabledState := fun _ => none
  parent : ν → Option ν := fun _ => none
  display : ν → String := fun _ => plainObjectText
  stringify : Value ν → String := textOf display

/-- A class that a registry knows. -/
structure ClassRef where
  name : String
deriving DecidableEq, Repr, Inhabited

/-- What is known about the classes of nodes and about their declared properties. -/
structure TypeRegistry (ν : Type) where
  classByName : String → Option ClassRef
  isInstance : ν → ClassRef → Bool
  hasProperty : ν → String → Bool
  property : ν → String → Value ν

/-- Where the descendants of a node come from. -/
inductive NodeShape where
  | items
  | children
  | members
deriving DecidableEq, Repr, Inhabited

def NodeShape.name : NodeShape → String
  | items => "items"
  | children => "children"
  | members => "members"

namespace WidgetGraph

variable {ν : Type} (graph : WidgetGraph ν)

def shape (node : ν) : NodeShape :=
  if (graph.items node).isSome then .items
  else if (graph.children node).isSome then .children
  else .members

/-- The values that the descendants of a node are taken from: its items, or else its children, or
else its members. -/
def contents (node : ν) : List (Value ν) :=
  match graph.items node, graph.children node with
  | some items, _ => items
  | none, some children => children
  | none, none => (graph.members node).map (·.2)

/-- The immediate descendants of a node: the objects among its contents but itself. -/
def descendants [DecidableEq ν] (node : ν) : List ν :=
  ((graph.contents node).filterMap Value.object?).filter (· ≠ node)

/-- The property of a node, if it declares it, or else its member. -/
def generalProperty (registry : Option (TypeRegistry ν)) (node : ν) (name : String) :
    Option (Value ν) :=
  match registry with
  | some r => if r.hasProperty node name then some (r.property node name) else graph.member node name
  | none => graph.member node name

end WidgetGraph

end WidgetLocator
