import WidgetLocator.Path

namespace WidgetLocator

/-- Where a hierarchy path starts. -/
inductive HierarchyRoot where
  | clientDocument
  | application
deriving DecidableEq, Repr, Inhabited

inductive QxLocator where
  /-- The element of a tagged widget. -/
  | tag (path : String)
  /-- A tagged widget itself. -/
  | tagObject (path : String)
  /-- An element found from the element of a tagged widget. -/
  | tagXPath (path xpath : String)
  /-- The element of the widget at a path. -/
  | hierarchy (root : HierarchyRoot) (path : Path)

inductive Locator where
  | qx (locator : QxLocator)
  | native (locator : String)

/-- The path after the name of an object space, which is made of letters before a colon. -/
def dropObjectSpace (text : List Char) : List Char :=
  match splitAtFirst ':' text with
  | some (space, rest) => if space ≠ [] ∧ space.all isAsciiLetter then rest else text
  | none => text

namespace QxLocator

/-- Reads tags and an XPath with a double slash between them. -/
def parseTagXPath (text : List Char) : Except Error QxLocator :=
  match splitOnDoubleSlash text with
  | [path, xpath] =>
    if path = [] then .error (.illFormed .noTagPart)
    else if xpath = [] then .error (.illFormed .noXPathPart)
    else .ok (.tagXPath (String.ofList path) (String.ofList xpath))
  | _ => .error (.illFormed .noSeparator)

/-- Reads a path, which starts at the application if it is in the object space `app`. -/
def parseHierarchy (text : List Char) : Except Error QxLocator :=
  let root : HierarchyRoot :=
    if "app:".toList.isPrefixOf text then .application else .clientDocument
  (Path.parse (String.ofList (dropObjectSpace text))).map (.hierarchy root)

def text : QxLocator → String
  | tag path => "qx=" ++ path
  | tagObject path => "qxx=" ++ path
  | tagXPath path xpath => "qxp=" ++ path ++ "//" ++ xpath
  | hierarchy .application path => "qxh=app:" ++ path.text
  | hierarchy .clientDocument path => "qxh=" ++ path.text

end QxLocator

def Locator.parse (text : String) : Except Error Locator :=
  match text.toList with
  | 'q' :: 'x' :: '=' :: rest => .ok (.qx (.tag (String.ofList rest)))
  | 'q' :: 'x' :: 'x' :: '=' :: rest => .ok (.qx (.tagObject (String.ofList rest)))
  | 'q' :: 'x' :: 'p' :: '=' :: rest => (QxLocator.parseTagXPath rest).map .qx
  | 'q' :: 'x' :: 'h' :: '=' :: rest => (QxLocator.parseHierarchy rest).map .qx
  | 'q' :: 'x' :: _ => .error (.illFormed (.unknownFamily text))
  | _ => .ok (.native text)

end WidgetLocator
