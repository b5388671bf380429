import WidgetLocator.Source
import WidgetLocator.Yaml.Scalar

namespace WidgetLocator

/-- A node of a document, and how deep it may still nest. -/
structure YamlAt where
  document : YamlDocument
  depth : Nat
  node : YamlNode

/-- Reading with a number of aliases that may still be followed. -/
abbrev YamlM := StateT Nat Option

/-- The node itself, or the one that it is an alias of. -/
def YamlDocument.follow (document : YamlDocument) : YamlNode → YamlM YamlNode
  | .alias number => do
    match ← get with
    | 0 => failure
    | left + 1 =>
      set left
      match document.target? number with
      | some node => return node
      | none => failure
  | node => return node

def YamlDocument.scalarText (document : YamlDocument) (node : YamlNode) : YamlM String := do
  match ← document.follow node with
  | .scalar _ _ _ text => return text
  | _ => failure

/-- The value of a node that nests at most so deep. -/
def YamlDocument.value (document : YamlDocument) : Nat → YamlNode → YamlM Json
  | depth, node => do
    match ← document.follow node with
    | .scalar _ tag style text =>
      match scalarJson? tag style text with
      | some value => return value
      | none => failure
    | .sequence _ tag items =>
      match depth with
      | 0 => failure
      | depth + 1 =>
        if (localTag? tag).isSome then failure
        return .array (← items.mapM (document.value depth))
    | .mapping _ tag entries =>
      match depth with
      | 0 => failure
      | depth + 1 =>
        if (localTag? tag).isSome then failure
        let fields ← entries.mapM fun (key, value) => do
          return (← document.scalarText key, ← document.value depth value)
        return .object (Fields.ofList fields).entries
    | .alias _ => failure
termination_by depth => depth

namespace YamlAt

def follow (v : YamlAt) : YamlM YamlNode :=
  v.document.follow v.node

/-- A scalar that stands for an empty collection. -/
def isHollow : YamlNode → Bool
  | .scalar _ _ .plain text => text.isEmpty
  | _ => false

/-- A node inside, if it may nest. -/
def inner (v : YamlAt) : YamlM (YamlNode → YamlAt) :=
  match v.depth with
  | 0 => failure
  | depth + 1 => return (⟨v.document, depth, ·⟩)

def text (v : YamlAt) : YamlM String :=
  v.document.scalarText v.node

def flag (v : YamlAt) : YamlM Bool := do
  match ← v.follow with
  | .scalar _ tag style text =>
    match yamlFlag? text with
    | some b => if style = .plain || (style = .literal && tag == some (coreTag "bool")) then return b
    | none => failure
    failure
  | _ => failure

def integer (low high : Int) (v : YamlAt) : YamlM Int := do
  match ← v.follow with
  | .scalar _ tag style text =>
    match yamlInteger? text.toList with
    | some n =>
      if (style = .plain || (style = .literal && tag == some (coreTag "int"))) && low ≤ n &&
          n ≤ high then
        return n
    | none => failure
    failure
  | _ => failure

/-- A name is written as a text, or as a local tag of nothing. -/
def choice (names : List String) (v : YamlAt) : YamlM String := do
  let node ← v.follow
  let name ← match node with
    | .scalar _ tag style text =>
      match localTag? tag with
      | some name =>
        if style = .plain && (text.isEmpty || isYamlNull text) then pure name else failure
      | none => pure text
    | _ => failure
  if names.contains name then return name
  failure

/-- A plain scalar that reads as null stands for no value. A null tag must say the same. -/
def present (v : YamlAt) : YamlM (Option YamlAt) := do
  let node ← v.follow
  let found := some { v with node := node }
  match node with
  | .scalar _ tag .plain text =>
    match tag with
    | none => if text.isEmpty || isYamlNull text then return none else return found
    | some tag =>
      if tag = coreTag "null" then
        if isYamlNull text then return none else failure
      else return found
  | _ => return found

def items (v : YamlAt) : YamlM (List YamlAt) := do
  let node ← v.follow
  if isHollow node then return []
  match node with
  | .sequence _ _ items => return items.map (← v.inner)
  | _ => failure

def entries (v : YamlAt) : YamlM (List (String × YamlAt)) := do
  let node ← v.follow
  if isHollow node then return []
  match node with
  | .mapping _ _ entries =>
    let inner ← v.inner
    entries.mapM fun (key, value) => do return (← v.document.scalarText key, inner value)
  | _ => failure

/-- The parts of a record: known names at most once. -/
def fields (names : List String) (v : YamlAt) : YamlM (List (String × YamlAt)) := do
  let known := (← v.entries).filter fun (name, _) => names.contains name
  if (known.map (·.1)).eraseDups.length = known.length then return known
  failure

def source : Source YamlM YamlAt where
  fail := failure
  text := text
  flag := flag
  integer := integer
  choice := choice
  any v := v.document.value v.depth v.node
  present := present
  items := items
  entries := entries
  fields := fields

end YamlAt

/-- How deep the values of a YAML text may nest. -/
def yamlDepth : Nat :=
  128

/-- Reads a typed value from YAML text. Each part of a document may be followed through aliases a
hundred times on average. -/
def Reader.ofYamlText? {α : Type} (reader : Reader α) (text : String) : Option α := do
  let document ← YamlDocument.ofText? text
  let root : YamlAt := ⟨document, yamlDepth, document.root.getD .empty⟩
  let (value, _) ← (reader.read YamlAt.source root).run (100 * document.events)
  return value

end WidgetLocator
