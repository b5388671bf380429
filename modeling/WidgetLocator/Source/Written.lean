import WidgetLocator.Json.Written
import WidgetLocator.Source

namespace WidgetLocator

/-- A written value, and how deep it may still nest. -/
structure WrittenAt where
  depth : Nat
  value : Written

namespace WrittenAt

/-- A value inside, if it may nest. -/
def inner? (at' : WrittenAt) : Option (Written → WrittenAt) :=
  match at'.depth with
  | 0 => none
  | depth + 1 => some (⟨depth, ·⟩)

/-- The parts of a record: known names at most once, and every name a whole text. -/
def knownFields (names : List String) :
    List (Option String × Written) → Option (List (String × Written))
  | [] => some []
  | (name, value) :: rest => do
    let name ← name
    let known ← knownFields names rest
    if names.contains name then
      if (field? known name).isSome then none else some ((name, value) :: known)
    else some known

def source : Source Option WrittenAt where
  fail := none
  text v := match v.value with
    | .text t => t
    | _ => none
  flag v := match v.value with
    | .bool b => some b
    | _ => none
  integer low high v := match v.value with
    | .number numeral =>
      match numeral.value? with
      | some (.integer n) => if low ≤ n ∧ n ≤ high then some n else none
      | _ => none
    | _ => none
  choice names v := match v.value, v.depth with
    | .text (some t), _ => if t ∈ names then some t else none
    | .object [(some t, .null)], _ + 1 => if t ∈ names then some t else none
    | _, _ => none
  any v := v.value.value? v.depth
  present v := match v.value with
    | .null => some none
    | _ => some (some v)
  items v := match v.value, v.inner? with
    | .array items, some inner => some (items.map inner)
    | _, _ => none
  entries v := match v.value, v.inner? with
    | .object fields, some inner =>
      fields.mapM fun (name, value) => name.map fun name => (name, inner value)
    | _, _ => none
  fields names v := match v.value, v.inner? with
    | .object fields, some inner =>
      (knownFields names fields).map (·.map fun (name, value) => (name, inner value))
    | .array items, some inner => positionalFields names (items.map inner)
    | _, _ => none

end WrittenAt

/-- Reads a typed value from JSON text. -/
def Reader.ofJsonText? {α : Type} (reader : Reader α) (text : String) : Option α := do
  let value ← Written.ofText? text
  reader.read WrittenAt.source ⟨writtenDepth, value⟩

end WidgetLocator
