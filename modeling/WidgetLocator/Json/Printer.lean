import WidgetLocator.Json
import WidgetLocator.Binary64.Shortest

namespace WidgetLocator

/-- A character inside quotes: the quote, the backslash and control characters are escaped. -/
def jsonEscaped (c : Char) : List Char :=
  if c = '"' then ['\\', '"']
  else if c = '\\' then ['\\', '\\']
  else if c = '\x08' then ['\\', 'b']
  else if c = '\x0c' then ['\\', 'f']
  else if c = '\n' then ['\\', 'n']
  else if c = '\r' then ['\\', 'r']
  else if c = '\t' then ['\\', 't']
  else if c.toNat < 0x20 then '\\' :: 'u' :: hexPadded 4 c.toNat
  else [c]

/-- A text in quotes. -/
def jsonQuoted (text : String) : String :=
  String.ofList ('"' :: text.toList.flatMap jsonEscaped ++ ['"'])

/-- A line break and the indentation of a level: two blanks each. -/
def jsonBreak (level : Nat) : String :=
  String.ofList ('\n' :: List.replicate (2 * level) ' ')

def JsonNumber.toText : JsonNumber → String
  | .integer n => String.ofList (integerDigits n)
  | .real x => if x.isFinite then String.ofList x.plainText else "null"

mutual

/-- A value over several lines, its first line being at an indentation level. -/
def Json.pretty (level : Nat) : Json → String
  | .null => "null"
  | .bool b => if b then "true" else "false"
  | .number n => n.toText
  | .text t => jsonQuoted t
  | .array [] => "[]"
  | .array (item :: items) =>
    "[" ++ jsonBreak (level + 1) ++ item.pretty (level + 1) ++ prettyItems (level + 1) items ++
      jsonBreak level ++ "]"
  | .object [] => "\x7b\x7d"
  | .object ((name, value) :: fields) =>
    "\x7b" ++ jsonBreak (level + 1) ++ jsonQuoted name ++ ": " ++ value.pretty (level + 1) ++
      prettyFields (level + 1) fields ++ jsonBreak level ++ "\x7d"

def prettyItems (level : Nat) : List Json → String
  | [] => ""
  | item :: items => "," ++ jsonBreak level ++ item.pretty level ++ prettyItems level items

def prettyFields (level : Nat) : List (String × Json) → String
  | [] => ""
  | (name, value) :: fields =>
    "," ++ jsonBreak level ++ jsonQuoted name ++ ": " ++ value.pretty level ++
      prettyFields level fields

end

end WidgetLocator
