namespace WidgetLocator

/-- Texts that do not have the form that they should have. A `stated` fault is worded by the one
who found it. -/
inductive FormFault where
  | illegalStep (segment : String)
  | badPattern (pattern : String)
  | emptyPath (path : String)
  | noSteps
  | unknownFamily (locator : String)
  | noSeparator
  | noTagPart
  | noXPathPart
  | notOfFamily (locator : String)
  | stated (message : String)
deriving DecidableEq, Repr, Inhabited

def FormFault.message : FormFault → String
  | .illegalStep segment => "QPath: Illegal step: " ++ segment
  | .badPattern pattern => "QPath: invalid attribute pattern '" ++ pattern ++ "'"
  | .emptyPath path => "QPath: empty hierarchy path: '" ++ path ++ "'"
  | .noSteps => "QPath: empty hierarchy path"
  | .unknownFamily locator => "Bad qooxdoo-Locator-Syntax for locator: " ++ locator
  | .noSeparator => "wrong QXP locator syntax. need: qx1/qx2/.../qxn//xpath"
  | .noTagPart => "wrong QXP locator syntax, qx-Part must not be empty"
  | .noXPathPart => "wrong QXP locator syntax, xpath-Part must not be empty"
  | .notOfFamily locator => "No qooxdoo locator given: " ++ locator
  | .stated message => message

/-- What a locator did not lead to. -/
inductive Absence where
  | element (locator : String)
  | widget (locator : String)
  | decision (locator : String)
  | stated (message : String)
deriving DecidableEq, Repr, Inhabited

def Absence.message : Absence → String
  | .element locator => "Element " ++ locator ++ " not found"
  | .widget locator => "No such object: " ++ locator
  | .decision locator => "No enabled state decides for " ++ locator
  | .stated message => message

/-- What a host or a locator family cannot do. -/
inductive Limitation where
  | xpath (path : String)
  | strategy (locator : String)
  | widgetOfXPath (locator : String)
  | enabledOfXPath
  | stated (message : String)
deriving DecidableEq, Repr, Inhabited

def Limitation.message : Limitation → String
  | .xpath path => "XPath evaluation needs a live document: " ++ path
  | .strategy locator => "locator strategy not available on a snapshot: " ++ locator
  | .widgetOfXPath locator => "no widget object for XPath locator " ++ locator
  | .enabledOfXPath => "isQxEnabled for qxp locators"
  | .stated message => message

/-- Why a host refuses an event. -/
inductive Refusal where
  | unknownElement (element : String)
  | stated (message : String)
deriving DecidableEq, Repr, Inhabited

def Refusal.message : Refusal → String
  | .unknownElement element => "no such element: " ++ element
  | .stated message => message

/-- What keeps a snapshot from being loaded. The owner is the node or field at fault. -/
inductive SnapshotFault where
  | unknownNode (owner id : String)
  | inlineObject (owner : String)
  | nestedArray (owner : String)
  | stated (message : String)
deriving DecidableEq, Repr, Inhabited

def SnapshotFault.message : SnapshotFault → String
  | .unknownNode owner id => owner ++ ": unknown node id '" ++ id ++ "'"
  | .inlineObject owner =>
    owner ++ ": objects must be written as \x7b\"$ref\": \"<id>\"\x7d"
  | .nestedArray owner => owner ++ ": arrays are only allowed for items and children"
  | .stated message => message

inductive Error where
  | illFormed (fault : FormFault)
  | notFound (absence : Absence)
  | registryUnavailable (step : String)
  | notImplemented (limitation : Limitation)
  | eventDispatch (refusal : Refusal)
  | snapshot (fault : SnapshotFault)
  /-- A file is missing or is no text. -/
  | unreadable
  /-- A text or value is not the JSON that it should be. -/
  | badJson
  /-- A text is not the YAML that it should be. -/
  | badYaml
  /-- A search has no end. -/
  | endless
deriving DecidableEq, Repr, Inhabited

namespace Error

def message : Error → String
  | illFormed fault => "Syntax error: " ++ fault.message
  | notFound absence => "Not found: " ++ absence.message
  | registryUnavailable step =>
    "Type registry unavailable: cannot resolve class step '" ++ step ++ "'"
  | notImplemented limitation => "Not implemented: " ++ limitation.message
  | eventDispatch refusal => "Event dispatch failed: " ++ refusal.message
  | snapshot fault => "Invalid snapshot: " ++ fault.message
  | unreadable => "I/O error"
  | badJson => "JSON error"
  | badYaml => "YAML error"
  | endless => "Endless search"

def isNotFound : Error → Bool
  | notFound _ => true
  | _ => false

end Error

section Results

variable {α β ε : Type}

theorem exists_of_bind_eq_ok {x : Except ε α} {f : α → Except ε β} {b : β}
    (h : x >>= f = .ok b) : ∃ a, x = .ok a ∧ f a = .ok b := by
  cases x with
  | error e => cases h
  | ok a => exact ⟨a, rfl, h⟩

theorem length_of_mapM_eq_ok {read : α → Except ε β} {xs : List α} {ys : List β}
    (h : xs.mapM read = .ok ys) : ys.length = xs.length := by
  induction xs generalizing ys with
  | nil =>
    cases Except.ok.inj h
    rfl
  | cons x xs ih =>
    rw [List.mapM_cons] at h
    obtain ⟨y, _, h⟩ := exists_of_bind_eq_ok h
    obtain ⟨tail, rest, h⟩ := exists_of_bind_eq_ok h
    cases Except.ok.inj h
    exact congrArg (· + 1) (ih rest)

end Results

end WidgetLocator
