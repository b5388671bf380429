import WidgetLocator.Path.Step

namespace WidgetLocator

structure Path where
  steps : List PathStep
  nonempty : steps ≠ []

instance : BEq Path :=
  ⟨fun a b => a.steps == b.steps⟩

namespace Path

/-- Reads a path. Empty segments are left out, and of several bad ones the first is reported. -/
def parse (text : String) : Except Error Path :=
  match (segments text.toList).mapM PathStep.parse with
  | .ok steps =>
    if h : steps = [] then .error (.illFormed (.emptyPath text)) else .ok ⟨steps, h⟩
  | .error e => .error e

def text (path : Path) : String :=
  joinSteps path.steps

end Path

end WidgetLocator
