import WidgetLocator.Json.Printer
import WidgetLocator.Path

namespace WidgetLocator

inductive OutputFormat where
  | text
  | json
deriving DecidableEq, Repr, Inhabited

/-- The node and the element that a locator led to. -/
structure LocateReport where
  locator : String
  node : Option String
  element : Option String
deriving DecidableEq, Repr, Inhabited

def LocateReport.matched (report : LocateReport) : Bool :=
  report.node.isSome || report.element.isSome

structure EnabledReport where
  locator : String
  enabled : Bool
deriving DecidableEq, Repr, Inhabited

/-- What a step looks for. -/
inductive StepKind where
  | wildcard
  | ofClass
  | member
  | index
  /-- A node whose attribute matches a pattern. -/
  | matching
  /-- The object in an attribute. -/
  | dereference
  /-- Nothing at all. -/
  | never
deriving DecidableEq, Repr, Inhabited

def StepKind.name : StepKind → String
  | wildcard => "wildcard"
  | ofClass => "class"
  | member => "member"
  | index => "index"
  | matching => "attribute"
  | dereference => "deref"
  | never => "never"

def PathStep.kind : PathStep → StepKind
  | wildcard => .wildcard
  | name n => if isClassName n then .ofClass else .member
  | index _ => .index
  | attr step =>
    match step.predicate with
    | none => .never
    | some predicate => if predicate.pattern.isSome then .matching else .dereference

/-- A step and what it looks for. -/
structure StepReport where
  kind : StepKind
  step : String
deriving DecidableEq, Repr, Inhabited

def Path.report (path : Path) : List StepReport :=
  path.steps.map fun step => ⟨step.kind, step.text⟩

/-- The colours of texts on a terminal. -/
inductive TextStyle where
  | kind
  | success
  | failure
deriving DecidableEq, Repr, Inhabited

/-- The escape sequences that start a style. -/
def TextStyle.start : TextStyle → String
  | kind => "\x1b[36m"
  | success => "\x1b[32m\x1b[1m"
  | failure => "\x1b[31m\x1b[1m"

/-- How reports are shown. Marks for success and failure go with colours; escape sequences are left
out where nothing would understand them. -/
structure Reporter where
  format : OutputFormat
  useColor : Bool
  escapes : Bool
deriving DecidableEq, Repr, Inhabited

/-- A text with blanks on its right up to a width. -/
def padRight (width : Nat) (text : String) : String :=
  text ++ String.ofList (List.replicate (width - text.length) ' ')

/-- A text with blanks on its left up to a width. -/
def padLeft (width : Nat) (text : String) : String :=
  String.ofList (List.replicate (width - text.length) ' ') ++ text

namespace Reporter

variable (reporter : Reporter)

def styled (style : TextStyle) (text : String) : String :=
  if reporter.escapes then style.start ++ text ++ "\x1b[0m" else text

/-- A text with a mark before it, if colours are used. -/
def marked (style : TextStyle) (mark text : String) : String :=
  if reporter.useColor then reporter.styled style mark ++ " " ++ text else text

def showLocate (report : LocateReport) : String :=
  match reporter.format with
  | .json =>
    let part (value : Option String) : Json := (value.map Json.text).getD .null
    (Json.object [("locator", .text report.locator), ("node", part report.node),
      ("element", part report.element)]).pretty 0
  | .text =>
    let parts := (report.node.map ("node " ++ ·)).toList ++
      (report.element.map ("element " ++ ·)).toList
    if report.matched then
      reporter.marked .success "✓" (report.locator ++ ": " ++ ", ".intercalate parts)
    else reporter.marked .failure "✗" (report.locator ++ ": no match")

def showEnabled (report : EnabledReport) : String :=
  match reporter.format with
  | .json =>
    (Json.object [("locator", .text report.locator), ("enabled", .bool report.enabled)]).pretty 0
  | .text => if report.enabled then "true" else "false"

/-- A step on a line, with its place. Escape sequences count for the width of the column. -/
def stepLine (place : Nat) (report : StepReport) : String :=
  let kind := report.kind.name
  let kind := if reporter.useColor then reporter.styled .kind kind else kind
  padLeft 2 (String.ofList (decimalDigits place)) ++ "  " ++ padRight 10 kind ++ " " ++ report.step

def showSteps (reports : List StepReport) : String :=
  match reporter.format with
  | .json =>
    (Json.array (reports.map fun report =>
      .object [("kind", .text report.kind.name), ("step", .text report.step)])).pretty 0
  | .text => "\n".intercalate (reports.mapIdx reporter.stepLine)

end Reporter

end WidgetLocator
