import WidgetLocator.Error
import WidgetLocator.Graph

namespace WidgetLocator

/-- A window with nodes and elements of some types. -/
structure HostWindow (ν ε : Type) where
  graph : WidgetGraph ν
  /-- How many nodes can be reached in it. -/
  nodes : Nat
  location : String
  /-- Whether the toolkit is there. -/
  toolkit : Bool
  application : Option ν
  clientDocument : Option ν
  /-- The client document, once there is an application. -/
  clientRoot : Option ν := if application.isSome then clientDocument else none
  registry : Option (TypeRegistry ν)
  elementOf : ν → Option ε
  /-- The element that an XPath leads to from another element. -/
  locateXPath : String → ε → Except Error (Option ε)
  /-- The element for a locator that is not of the `qx` family. -/
  locateNative : String → Except Error (Option ε)

end WidgetLocator
