import WidgetLocator.Graph.Steps
import WidgetLocator.Path

namespace WidgetLocator

/-- Why a path leads to no node: no value was found for the last of some steps, which a wildcard
further up takes as no match, or the search has to end. -/
inductive Dead where
  | unresolved (steps : List PathStep)
  | fatal (error : Error)

abbrev Resolution (ν : Type) :=
  Except Dead (Option ν)

/-- The text of unresolved steps. -/
def unresolvedMessage (steps : List PathStep) : String :=
  "Qxh Locator: could not resolve " ++ joinSteps steps

/-- The first node found among some branches. Only a fatal error keeps later ones from being
tried. -/
def firstFound {α ν : Type} (search : α → Resolution ν) : List α → Resolution ν
  | [] => .ok none
  | branch :: branches =>
    match search branch with
    | .ok (some node) => .ok (some node)
    | .error (.fatal e) => .error (.fatal e)
    | _ => firstFound search branches

/-- Where paths are resolved. -/
structure PathSearch (ν : Type) where
  graph : WidgetGraph ν
  registry : Option (TypeRegistry ν)
  cycleGuard : Bool

namespace PathSearch

variable {ν : Type} [DecidableEq ν] (search : PathSearch ν)

/-- Resolves steps below a node. A wildcard tries the rest of the path at its node and then the whole
path at each descendant, depth first. The nodes above it in that search come in `above`, and the
guard keeps the search from entering one of them. No more than `fuel` calls are nested. -/
def resolveSteps : Nat → ν → List PathStep → List ν → Resolution ν
  | 0, _, _, _ => .error (.fatal .endless)
  | _ + 1, _, [], _ => .error (.fatal (.illFormed .noSteps))
  | fuel + 1, node, .wildcard :: rest, above =>
    if rest.isEmpty then .ok (some node)
    else
      match resolveSteps fuel node rest [] with
      | .ok (some found) => .ok (some found)
      | .error (.fatal e) => .error (.fatal e)
      | _ =>
        let above := if search.cycleGuard then node :: above else above
        let below := (search.graph.descendants node).filter fun child =>
          !(search.cycleGuard && above.contains child)
        match firstFound (fun child => resolveSteps fuel child (.wildcard :: rest) above)
            below with
        | .ok none => .error (.unresolved [.wildcard])
        | outcome => outcome
  | fuel + 1, node, step :: rest, _ =>
    match search.graph.takeStep search.registry node step with
    | .error e => .error (.fatal e)
    | .ok none => .error (.unresolved [step])
    | .ok (some (.object next)) =>
      if rest.isEmpty then .ok (some next)
      else
        match resolveSteps fuel next rest [] with
        | .error (.unresolved steps) => .error (.unresolved (step :: steps))
        | outcome => outcome
    | .ok (some _) => .ok none

/-- How deep the calls for a path are nested in a graph, unless they have no end: each step is
taken at every node at most once. -/
def depthLimit (nodes steps : Nat) : Nat :=
  steps * (nodes + 1) + 1

/-- Resolves a path below a node in a graph with a number of nodes. -/
def resolve (nodes : Nat) (root : ν) (path : Path) : Resolution ν :=
  search.resolveSteps (depthLimit nodes path.steps.length) root path.steps []

end PathSearch

end WidgetLocator
