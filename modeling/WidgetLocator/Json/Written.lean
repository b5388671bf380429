import WidgetLocator.Json

namespace WidgetLocator

/-- A value as written. A text is `none` if an escape in it names half a surrogate pair. What no one
keeps of it is never made a value, so that its nesting, its numerals and such halves are not judged
there. -/
inductive Written where
  | null
  | bool (value : Bool)
  | number (numeral : Numeral)
  | text (content : Option String)
  | array (items : List Written)
  | object (fields : List (Option String × Written))
deriving Repr, Inhabited

def dropJsonBlanks (text : List Char) : List Char :=
  text.dropWhile fun c => c == ' ' || c == '\n' || c == '\t' || c == '\r'

/-- The character of a one-letter escape. -/
def simpleEscape? : Char → Option Char
  | '"' => some '"'
  | '\\' => some '\\'
  | '/' => some '/'
  | 'b' => some '\x08'
  | 'f' => some '\x0c'
  | 'n' => some '\n'
  | 'r' => some '\r'
  | 't' => some '\t'
  | _ => none

/-- The character of a surrogate pair. -/
def pairChar (high low : Nat) : Char :=
  Char.ofNat (0x10000 + (high - 0xD800) * 1024 + (low - 0xDC00))

/-- Reads a text after its opening quote. What was read comes reversed in `done`; `half` is the
first half of a surrogate pair if an escape has just named one, and `whole` tells that no other
half has occurred. -/
def readTextBody (done : List Char) (whole : Bool) (half : Option Nat) :
    List Char → Option (Option String × List Char)
  | [] => none
  | '"' :: rest =>
    some (if whole && half.isNone then some (String.ofList done.reverse) else none, rest)
  | '\\' :: 'u' :: a :: b :: c :: d :: rest =>
    match hexNumber? [a, b, c, d], half with
    | none, _ => none
    | some n, some high =>
      if 0xDC00 ≤ n ∧ n < 0xE000 then readTextBody (pairChar high n :: done) whole none rest
      else if 0xD800 ≤ n ∧ n < 0xDC00 then readTextBody done false (some n) rest
      else readTextBody (Char.ofNat n :: done) false none rest
    | some n, none =>
      if 0xDC00 ≤ n ∧ n < 0xE000 then readTextBody done false none rest
      else if 0xD800 ≤ n ∧ n < 0xDC00 then readTextBody done whole (some n) rest
      else readTextBody (Char.ofNat n :: done) whole none rest
  | '\\' :: c :: rest =>
    match simpleEscape? c with
    | some x => readTextBody (x :: done) (whole && half.isNone) none rest
    | none => none
  | c :: rest =>
    if c.toNat < 0x20 ∨ c = '\\' then none
    else readTextBody (c :: done) (whole && half.isNone) none rest

/-- Reads a quoted text. -/
def readText : List Char → Option (Option String × List Char)
  | '"' :: rest => readTextBody [] true none rest
  | _ => none

mutual

/-- Reads one value; `fuel` bounds the number of values read. -/
def readWritten : Nat → List Char → Option (Written × List Char)
  | 0, _ => none
  | fuel + 1, text =>
    match dropJsonBlanks text with
    | 'n' :: 'u' :: 'l' :: 'l' :: rest => some (.null, rest)
    | 't' :: 'r' :: 'u' :: 'e' :: rest => some (.bool true, rest)
    | 'f' :: 'a' :: 'l' :: 's' :: 'e' :: rest => some (.bool false, rest)
    | '"' :: rest => (readTextBody [] true none rest).map fun (t, rest) => (.text t, rest)
    | '[' :: rest =>
      match dropJsonBlanks rest with
      | ']' :: rest => some (.array [], rest)
      | rest => (readItems fuel rest).map fun (items, rest) => (.array items, rest)
    | '{' :: rest =>
      match dropJsonBlanks rest with
      | '}' :: rest => some (.object [], rest)
      | rest => (readFields fuel rest).map fun (fields, rest) => (.object fields, rest)
    | rest => (readNumeral rest).map fun (n, rest) => (.number n, rest)

/-- Reads the items of an array that is not empty, and its closing bracket. -/
def readItems : Nat → List Char → Option (List Written × List Char)
  | 0, _ => none
  | fuel + 1, text => do
    let (item, rest) ← readWritten fuel text
    match dropJsonBlanks rest with
    | ']' :: rest => some ([item], rest)
    | ',' :: rest =>
      let (items, rest) ← readItems fuel rest
      some (item :: items, rest)
    | _ => none

/-- Reads the fields of an object that is not empty, and its closing brace. -/
def readFields : Nat → List Char → Option (List (Option String × Written) × List Char)
  | 0, _ => none
  | fuel + 1, text => do
    let (name, rest) ← readText (dropJsonBlanks text)
    match dropJsonBlanks rest with
    | ':' :: rest =>
      let (value, rest) ← readWritten fuel rest
      match dropJsonBlanks rest with
      | '}' :: rest => some ([(name, value)], rest)
      | ',' :: rest =>
        let (fields, rest) ← readFields fuel rest
        some ((name, value) :: fields, rest)
      | _ => none
    | _ => none

end

/-- Reads a text that holds one value and blanks. -/
def Written.ofText? (text : String) : Option Written :=
  let chars := text.toList
  match readWritten (2 * chars.length + 1) chars with
  | some (value, rest) => if (dropJsonBlanks rest).isEmpty then some value else none
  | none => none

mutual

/-- The value of what is written, if its arrays and objects are nested at most `depth` deep. -/
def Written.value? : Nat → Written → Option Json
  | _, .null => some .null
  | _, .bool b => some (.bool b)
  | _, .number n => n.value?.map .number
  | _, .text t => t.map .text
  | 0, .array _ => none
  | depth + 1, .array items => (itemValues? depth items).map .array
  | 0, .object _ => none
  | depth + 1, .object fields =>
    (fieldValues? depth fields).map fun values => .object (Fields.ofList values).entries

def itemValues? : Nat → List Written → Option (List Json)
  | _, [] => some []
  | depth, item :: items => do
    let value ← item.value? depth
    let values ← itemValues? depth items
    return value :: values

def fieldValues? : Nat → List (Option String × Written) → Option (List (String × Json))
  | _, [] => some []
  | depth, (name, value) :: fields => do
    let name ← name
    let value ← value.value? depth
    let values ← fieldValues? depth fields
    return (name, value) :: values

end

/-- How deep the kept parts of a text may nest. -/
def writtenDepth : Nat :=
  127

/-- The value of a JSON text. -/
def Json.ofText? (text : String) : Option Json := do
  let written ← Written.ofText? text
  written.value? writtenDepth

end WidgetLocator
