import WidgetLocator.Table
import WidgetLocator.Text

namespace WidgetLocator

/-- How a window makes events. -/
inductive EventModel where
  | standard
  | legacy
deriving DecidableEq, Repr, Inhabited

def EventModel.ofName? : String → Option EventModel
  | "standard" => some standard
  | "legacy" => some legacy
  | _ => none

/-- The number of a mouse button. An unknown name has the number zero. -/
def EventModel.buttonCode (model : EventModel) (name : String) : Nat :=
  match model, name with
  | legacy, "left" => 1
  | _, "right" => 2
  | legacy, "middle" => 4
  | standard, "middle" => 1
  | _, _ => 0

/-- The integer that a text starts with. It is zero if no digits come first, or if they do not fit
signed 64 bits. -/
def leadingInteger (text : List Char) : Int64 :=
  let (negative, rest) := match text with
    | '-' :: rest => (true, rest)
    | '+' :: rest => (false, rest)
    | rest => (false, rest)
  let n := decimalValue (rest.takeWhile isAsciiDigit)
  if n < Nat.pow 2 63 then Int64.ofInt (if negative then -n else n) else 0

def int64Text (n : Int64) : String :=
  String.ofList (integerDigits n.toInt)

/-- Values by name. -/
structure MouseParameters where
  values : Table String
deriving DecidableEq, Repr, Inhabited

namespace MouseParameters

/-- The name and value of a pair, without the blanks around them. -/
def pairOf (pair : List Char) : String × String :=
  let fields := pair.splitOn '='
  (String.ofList (trimBlanks (fields[0]?.getD [])),
    String.ofList (trimBlanks (fields[1]?.getD [])))

/-- Reads parameters. Pairs without a name are skipped, and of several values for a name the last
one is kept. -/
def parse (text : String) : MouseParameters :=
  ⟨Table.ofList (((text.toList.splitOn ',').map pairOf).filter (·.1 ≠ ""))⟩

variable (parameters : MouseParameters)

def withText (name value : String) : MouseParameters :=
  ⟨parameters.values.insert name value⟩

def withNumber (name : String) (value : Int64) : MouseParameters :=
  parameters.withText name (int64Text value)

/-- The value of a name, unless it is empty. -/
def get? (name : String) : Option String :=
  (parameters.values.get? name).filter (· ≠ "")

def flag (name : String) (default : Bool) : Bool :=
  match parameters.get? name with
  | some value => value == "true"
  | none => default

def number (name : String) (default : Int64) : Int64 :=
  match parameters.get? name with
  | some value => leadingInteger value.toList
  | none => default

def button (model : EventModel) : Nat :=
  model.buttonCode ((parameters.get? "button").getD "left")

end MouseParameters

structure MouseEvent where
  eventType : String
  bubbles : Bool
  cancelable : Bool
  detail : Int64
  screenX : Int64
  screenY : Int64
  clientX : Int64
  clientY : Int64
  ctrlKey : Bool
  altKey : Bool
  shiftKey : Bool
  metaKey : Bool
  button : Nat
deriving DecidableEq, Repr, Inhabited

/-- The event of a type with some parameters. -/
def MouseEvent.of (eventType : String) (parameters : MouseParameters) (model : EventModel) :
    MouseEvent where
  eventType := eventType
  bubbles := parameters.flag "bubbles" true
  cancelable := parameters.flag "cancelable" true
  detail := parameters.number "detail" 1
  screenX := parameters.number "screenX" 0
  screenY := parameters.number "screenY" 0
  clientX := parameters.number "clientX" 0
  clientY := parameters.number "clientY" 0
  ctrlKey := parameters.flag "ctrlKey" false
  altKey := parameters.flag "altKey" false
  shiftKey := parameters.flag "shiftKey" false
  metaKey := parameters.flag "metaKey" false
  button := parameters.button model

end WidgetLocator
