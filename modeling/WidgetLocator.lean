import WidgetLocator.Main
import WidgetLocator.Event.Recording
import WidgetLocator.Proofs.Search.Evaluation
import WidgetLocator.Proofs.Search.Calls
import WidgetLocator.Proofs.Search.Bound
import WidgetLocator.Proofs.Search.Preorder
import WidgetLocator.Proofs.Search.Wildcard
import WidgetLocator.Proofs.Search.FirstMatch
import WidgetLocator.Proofs.Search.Guard
import WidgetLocator.Proofs.Search.Walk
import WidgetLocator.Proofs.Loading
import WidgetLocator.Proofs.Search.Loaded
import WidgetLocator.Proofs.Path.Grammar
import WidgetLocator.Proofs.Path.RoundTrip
import WidgetLocator.Proofs.Locator.RoundTrip
import WidgetLocator.Proofs.Loading.Closed
import WidgetLocator.Proofs.Loading.Faithful
import WidgetLocator.Proofs.Search.Depth
import WidgetLocator.Proofs.Search.Tags
import WidgetLocator.Proofs.Search.Window
import WidgetLocator.Proofs.Search.Renaming
import WidgetLocator.Proofs.Extension
import WidgetLocator.Proofs.Search.Collapse
import WidgetLocator.Proofs.Event.Delivery
import WidgetLocator.Proofs.Event.Listeners
import WidgetLocator.Proofs.Event.Viewport
import WidgetLocator.Proofs.Search.Inside
import WidgetLocator.Proofs.Locator.Families
import WidgetLocator.Proofs.Search.TagOrder
import WidgetLocator.Proofs.Report
import WidgetLocator.Proofs.Loading.RoundTrip
import WidgetLocator.Proofs.Locator.Failures
import WidgetLocator.Proofs.Loading.Adoption
import WidgetLocator.Proofs.Loading.Parents
import WidgetLocator.Proofs.Enabled
import WidgetLocator.Proofs.Classes
import WidgetLocator.Proofs.Search.Qualifying
import WidgetLocator.Proofs.Path.Attribute
import WidgetLocator.Proofs.Locator.Parts
import WidgetLocator.Proofs.Event.Click
import WidgetLocator.Proofs.Event.Numbers
import WidgetLocator.Proofs.Event.ClickAt
import WidgetLocator.Proofs.Event.Origin
import WidgetLocator.Proofs.NumberText
import WidgetLocator.Proofs.Event.Execute
