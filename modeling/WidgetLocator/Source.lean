import WidgetLocator.Fields
import WidgetLocator.Json
import WidgetLocator.Table

namespace WidgetLocator

/-- How the values of a notation are taken apart. -/
structure Source (m : Type → Type) (β : Type) where
  /-- The outcome of reading a value that is not as it should be. -/
  fail : {α : Type} → m α
  text : β → m String
  flag : β → m Bool
  /-- An integer between two bounds. -/
  integer : Int → Int → β → m Int
  /-- One of some names. -/
  choice : List String → β → m String
  any : β → m Json
  /-- The value itself, unless it stands for none. -/
  present : β → m (Option β)
  items : β → m (List β)
  /-- Values by name, in order; names may repeat. -/
  entries : β → m (List (String × β))
  /-- The values of a record with given field names. Other names are skipped. -/
  fields : List String → β → m (List (String × β))

namespace Source

variable {m : Type → Type} [Monad m] {α β : Type} (source : Source m β)

def optional (read : β → m α) (value : β) : m (Option α) := do
  match ← source.present value with
  | some value => some <$> read value
  | none => pure none

def list (read : β → m α) (value : β) : m (List α) := do
  (← source.items value).mapM read

/-- Reads values by name. All of them are read, also those that a later one takes the place
of. -/
def named (read : β → m α) (value : β) : m (List (String × α)) := do
  (← source.entries value).mapM fun (name, value) => do return (name, ← read value)

def ordered (read : β → m α) (value : β) : m (Fields α) :=
  Fields.ofList <$> source.named read value

def table (read : β → m α) (value : β) : m (Table α) :=
  Table.ofList <$> source.named read value

/-- Reads a field of a record. -/
def field (fields : List (String × β)) (name : String) (read : β → m α) : m α :=
  match field? fields name with
  | some value => read value
  | none => source.fail

end Source

/-- Reads a field of a record; a missing one has a default. -/
def fieldOr {m : Type → Type} [Monad m] {α β : Type} (missing : α)
    (fields : List (String × β)) (name : String) (read : β → m α) : m α :=
  match field? fields name with
  | some value => read value
  | none => pure missing

/-- How typed values are made from the values of any source. -/
structure Reader (α : Type) where
  read : {m : Type → Type} → [Monad m] → {β : Type} → Source m β → β → m α

/-- The fields of a record that is written as a list: they come in order, and the last ones may be
missing. -/
def positionalFields {β : Type} (names : List String) (items : List β) :
    Option (List (String × β)) :=
  if items.length ≤ names.length then some (names.zip items) else none

/-- JSON values. A record may be written as a list, and a name as an object with a null value. -/
def Json.source : Source Option Json where
  fail := none
  text
    | .text t => some t
    | _ => none
  flag
    | .bool b => some b
    | _ => none
  integer low high
    | .number (.integer n) => if low ≤ n ∧ n ≤ high then some n else none
    | _ => none
  choice names
    | .text t => if t ∈ names then some t else none
    | .object [(t, .null)] => if t ∈ names then some t else none
    | _ => none
  any := some
  present
    | .null => some none
    | value => some (some value)
  items
    | .array items => some items
    | _ => none
  entries
    | .object fields => some fields
    | _ => none
  fields names
    | .object fields => some (fields.filter fun (name, _) => names.contains name)
    | .array items => positionalFields names items
    | _ => none

def Reader.ofJson? {α : Type} (reader : Reader α) (value : Json) : Option α :=
  reader.read Json.source value

end WidgetLocator
