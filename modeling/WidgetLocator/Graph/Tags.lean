import WidgetLocator.Error
import WidgetLocator.Graph
import WidgetLocator.Text

namespace WidgetLocator
namespace WidgetGraph

variable {ν : Type} (graph : WidgetGraph ν)

/-- The first widget found among some nodes. -/
def firstTagged (search : ν → Except Error (Option ν)) : List ν → Except Error (Option ν)
  | [] => .ok none
  | node :: nodes =>
    match search node with
    | .ok none => firstTagged search nodes
    | outcome => outcome

/-- The first node with a tag, that is with user data of that name that counts as true, below a
node, depth first along child collections. No more than `fuel` calls are nested. -/
def searchTag : Nat → ν → String → Except Error (Option ν)
  | 0, _, _ => .error .endless
  | fuel + 1, node, tag =>
    let children := ((graph.children node).getD []).filterMap Value.object?
    firstTagged (fun child =>
      if (graph.userData child tag).isTruthy then .ok (some child)
      else searchTag fuel child tag) children

/-- The widget for a tag in a graph with a number of nodes. -/
def findTag (nodes : Nat) (node : ν) (tag : String) : Except Error (Option ν) :=
  graph.searchTag (nodes + 1) node tag

/-- The widget for some tags, each below the one before. -/
def findTags (nodes : Nat) (node : ν) : List String → Except Error (Option ν)
  | [] => .ok (some node)
  | tag :: tags =>
    match graph.findTag nodes node tag with
    | .ok (some next) => findTags nodes next tags
    | outcome => outcome

def tagsOf (path : String) : List String :=
  (segments path.toList).map String.ofList

def findTagPath (nodes : Nat) (node : ν) (path : String) : Except Error (Option ν) :=
  graph.findTags nodes node (tagsOf path)

end WidgetGraph
end WidgetLocator
