import WidgetLocator.Source

namespace WidgetLocator

structure Configuration where
  /-- Whether the click of the viewport check is left to the user. -/
  viewportByHand : Bool
  /-- What is put before the XPath of a locator. -/
  xpathLead : String
  /-- Whether wildcards keep off nodes that they are already below. -/
  cycleGuard : Bool
deriving DecidableEq, Repr

def Configuration.standard : Configuration :=
  ⟨true, "descendant-or-self::node()/", false⟩

instance : Inhabited Configuration :=
  ⟨.standard⟩

/-- Reads settings. Missing ones are as in the standard configuration. -/
def Configuration.read {m : Type → Type} [Monad m] {β : Type} (source : Source m β)
    (value : β) : m Configuration := do
  let fields ← source.fields ["viewport_by_hand", "xpath_prefix", "cycle_guard"] value
  let default := Configuration.standard
  return {
    viewportByHand := ← fieldOr default.viewportByHand fields "viewport_by_hand" source.flag
    xpathLead := ← fieldOr default.xpathLead fields "xpath_prefix" source.text
    cycleGuard := ← fieldOr default.cycleGuard fields "cycle_guard" source.flag }

def Configuration.reader : Reader Configuration :=
  ⟨fun source value => Configuration.read source value⟩

end WidgetLocator
