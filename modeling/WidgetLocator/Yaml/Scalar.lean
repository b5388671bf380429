import WidgetLocator.Binary64.Literal
import WidgetLocator.Json
import WidgetLocator.Yaml.Node

namespace WidgetLocator

def isYamlNull (text : String) : Bool :=
  ["null", "Null", "NULL", "~"].contains text

def yamlFlag? (text : String) : Option Bool :=
  if ["true", "True", "TRUE"].contains text then some true
  else if ["false", "False", "FALSE"].contains text then some false
  else none

/-- A row of digits in a base as a number. -/
def digitsValue? (base : Nat) (digits : List Char) : Option Nat :=
  if digits.isEmpty then none
  else digits.foldlM (fun n c => do
    let d ← hexValue? c
    if d < base then some (base * n + d) else none) 0

/-- The value of an integer without sign: digits, or a base mark and digits. Several digits that
start with a zero are no integer. -/
def yamlNatural? (text : List Char) : Option Nat :=
  match text with
  | '0' :: 'x' :: digits => digitsValue? 16 digits
  | '0' :: 'o' :: digits => digitsValue? 8 digits
  | '0' :: 'b' :: digits => digitsValue? 2 digits
  | '0' :: _ :: _ => none
  | digits => digitsValue? 10 digits

/-- The value of an integer of at most 128 bits. -/
def yamlInteger? (text : List Char) : Option Int :=
  match text with
  | '-' :: rest =>
    (yamlNatural? rest).bind fun n => if n ≤ Nat.pow 2 127 then some (-(n : Int)) else none
  | '+' :: rest =>
    (yamlNatural? rest).bind fun n => if n < Nat.pow 2 128 then some (n : Int) else none
  | _ => (yamlNatural? text).bind fun n => if n < Nat.pow 2 128 then some (n : Int) else none

/-- An integer as a value. One that fits no 64 bits is refused. -/
def integerJson? (n : Int) : Option Json :=
  if -(Nat.pow 2 63 : Int) ≤ n ∧ n < Nat.pow 2 64 then some (.number (.integer n)) else none

/-- The value of a real number: a decimal within the range, an infinity, or no number. -/
def yamlReal? (text : String) : Option Binary64 :=
  if [".inf", ".Inf", ".INF", "+.inf", "+.Inf", "+.INF"].contains text then some (.infinity false)
  else if ["-.inf", "-.Inf", "-.INF"].contains text then some (.infinity true)
  else if [".nan", ".NaN", ".NAN"].contains text then some .nan
  else (Binary64.ofLiteral? text.toList).filter (·.isFinite)

/-- Whether a text is several digits that start with a zero, perhaps after a sign. -/
def isZeroLed (text : String) : Bool :=
  let digits := match text.toList with
    | '-' :: rest => rest
    | '+' :: rest => rest
    | rest => rest
  1 < digits.length && digits.head? == some '0' && digits.all isAsciiDigit

/-- A real number as a value. One that is not finite has none. -/
def realJson (x : Binary64) : Json :=
  if x.isFinite then .number (.real x) else .null

/-- The value of a plain scalar without a tag. -/
def plainJson? (text : String) : Option Json :=
  if text.isEmpty || isYamlNull text then some .null
  else
    match yamlFlag? text, yamlInteger? text.toList with
    | some b, _ => some (.bool b)
    | none, some n => integerJson? n
    | none, none =>
      match if isZeroLed text then none else yamlReal? text with
      | some x => some (realJson x)
      | none => some (.text text)

/-- The full text of a tag of the core schema. -/
def coreTag (name : String) : String :=
  "tag:yaml.org,2002:" ++ name

/-- The name in a local tag, the exclamation mark itself if there is no name. -/
def localTag? (tag : Option String) : Option String :=
  match tag.map String.toList with
  | some ['!'] => some "!"
  | some ('!' :: name) => some (String.ofList name)
  | _ => none

/-- The value of a scalar. A tag of the core schema decides its type, any other one makes it a
text, and local tags have no value. -/
def scalarJson? (tag : Option String) (style : ScalarStyle) (text : String) : Option Json :=
  if (localTag? tag).isSome then none
  else
    match tag with
    | none => if style = .plain then plainJson? text else some (.text text)
    | some tag =>
      if tag = coreTag "bool" then (yamlFlag? text).map .bool
      else if tag = coreTag "int" then (yamlInteger? text.toList).bind integerJson?
      else if tag = coreTag "float" then (yamlReal? text).map realJson
      else if tag = coreTag "null" then if isYamlNull text then some .null else none
      else some (.text text)

end WidgetLocator
