import WidgetLocator.Commands
import WidgetLocator.Report
import WidgetLocator.Snapshot

namespace WidgetLocator
namespace Snapshot

variable (snapshot : Snapshot) (configuration : Configuration)

def dispatcher : Dispatcher NodeId String :=
  ⟨snapshot.window, configuration⟩

/-- The name of the widget that a locator leads to. Native locators and XPaths lead to none. -/
def locatedNode (locator : Locator) : Except Error (Option String) :=
  match locator with
  | .native _ => .ok none
  | .qx (.tagXPath _ _) => .ok none
  | .qx locator =>
    ((snapshot.dispatcher configuration).locateObject locator).map (·.map snapshot.idOf)

/-- What a locator leads to. -/
def locateReport (text : String) : Except Error LocateReport := do
  let locator ← Locator.parse text
  let node ← snapshot.locatedNode configuration locator
  let element ← (snapshot.dispatcher configuration).findElement text
  return ⟨text, node, element⟩

/-- Whether the widget of a locator is enabled. -/
def enabledReport (text : String) : Except Error EnabledReport :=
  ((snapshot.dispatcher configuration).isEnabled text).map fun enabled => ⟨text, enabled⟩

end Snapshot
end WidgetLocator
