import WidgetLocator.Error
import WidgetLocator.Source.Written
import WidgetLocator.Source.Yaml

namespace WidgetLocator

inductive FileFormat where
  | json
  | yaml
deriving DecidableEq, Repr, Inhabited

namespace FileFormat

/-- The part of a path after its last slash, slashes at the end left aside. -/
def fileName (path : String) : List Char :=
  ((path.toList.reverse.dropWhile (· == '/')).takeWhile (· != '/')).reverse

/-- What follows the last dot of a file name, unless nothing comes before that dot. -/
def extension? (path : String) : Option String :=
  let name := (fileName path).reverse
  let extension := name.takeWhile (· != '.')
  match name.drop extension.length with
  | '.' :: _ :: _ => some (String.ofList extension.reverse)
  | _ => none

/-- The extension of a name says whether a file is YAML; all others are JSON. -/
def ofPath (path : String) : FileFormat :=
  match extension? path with
  | some "yaml" => .yaml
  | some "yml" => .yaml
  | _ => .json

end FileFormat

namespace Reader

variable {α : Type} (reader : Reader α)

def ofValue (value : Json) : Except Error α :=
  match reader.ofJson? value with
  | some result => .ok result
  | none => .error .badJson

def ofText (format : FileFormat) (text : String) : Except Error α :=
  match format with
  | .json =>
    match reader.ofJsonText? text with
    | some result => .ok result
    | none => .error .badJson
  | .yaml =>
    match reader.ofYamlText? text with
    | some result => .ok result
    | none => .error .badYaml

end Reader

/-- The files that can be read, by path: those that exist and are text. -/
abbrev FileTexts := String → Option String

/-- Reads a typed value from a file. -/
def Reader.ofFile {α : Type} (reader : Reader α) (files : FileTexts) (path : String) :
    Except Error α :=
  match files path with
  | some text => reader.ofText (.ofPath path) text
  | none => .error .unreadable

end WidgetLocator
