import WidgetLocator.Fields
import WidgetLocator.Yaml.Token

namespace WidgetLocator

/-- A node. An anchored node carries the number of its anchor, and an alias stays in the tree by
that number. -/
inductive YamlNode where
  | scalar (anchor : Option Nat) (tag : Option String) (style : ScalarStyle) (text : String)
  | sequence (anchor : Option Nat) (tag : Option String) (items : List YamlNode)
  | mapping (anchor : Option Nat) (tag : Option String) (entries : List (YamlNode × YamlNode))
  | alias (number : Nat)
deriving Repr, Inhabited

/-- A node that is left out. -/
def YamlNode.empty : YamlNode :=
  .scalar none none .plain ""

/-- What is left to read, the tag handles, and the anchors so far with their numbers. -/
structure NodeScan where
  tokens : List YamlToken
  handles : List (String × String)
  anchors : List (String × Nat)

abbrev NodeM := StateT NodeScan Option

namespace NodeM

def peek : NodeM (Option YamlToken) :=
  return (← get).tokens.head?

def skip : NodeM Unit :=
  modify fun s => { s with tokens := s.tokens.tail }

def isAt (tokens : List YamlToken) : NodeM Bool :=
  return (← peek).any tokens.contains

/-- Goes over a token if it comes next, and tells whether it did. -/
def accept (token : YamlToken) : NodeM Bool := do
  if (← peek) == some token then
    skip
    return true
  return false

/-- The number of a new anchor: how many names there are. A name that is used again gets a new
number and keeps no place of its own in the count. -/
def newAnchor (name : String) : NodeM Nat := do
  let number := (← get).anchors.length
  modify fun s => { s with anchors := setField s.anchors name number }
  return number

def anchorNumber (name : String) : NodeM Nat := do
  match field? (← get).anchors name with
  | some number => return number
  | none => failure

/-- The full text of a tag. -/
def resolveTag (handle suffix : String) : NodeM String := do
  if handle.isEmpty then return suffix
  match field? (← get).handles handle with
  | some lead => return lead ++ suffix
  | none => failure

def readTag : NodeM (Option String) := do
  match ← peek with
  | some (.tag handle suffix) =>
    skip
    return some (← resolveTag handle suffix)
  | _ => return none

/-- Reads the name of an anchor, if one comes next. -/
def readAnchor : NodeM (Option String) := do
  match ← peek with
  | some (.anchor name) =>
    skip
    return some name
  | _ => return none

/-- Reads an anchor and a tag in any order, each at most once. -/
def readProperties : NodeM (Option String × Option String) := do
  match ← readAnchor with
  | some name => return (some name, ← readTag)
  | none =>
    let tag ← readTag
    if tag.isSome then return (← readAnchor, tag) else return (none, none)

mutual

/-- Reads a node. Inside blocks it may be a block itself, and where a mapping allows it a sequence
at the indentation of the mapping. -/
def readNode : Nat → Bool → Bool → NodeM YamlNode
  | 0, _, _ => failure
  | fuel + 1, block, indentless => do
    if let some (.alias name) ← peek then
      skip
      return .alias (← anchorNumber name)
    let (name, tag) ← readProperties
    let token ← peek
    let opens := match token with
      | some (.scalar ..) | some .flowSequence | some .flowMapping => true
      | some .blockSequence | some .blockMapping => block
      | some .blockEntry => indentless
      | _ => name.isSome || tag.isSome
    if !opens then failure
    let anchor ← match name with
      | some name => some <$> newAnchor name
      | none => pure none
    match token with
    | some (.scalar style text) =>
      skip
      return .scalar anchor (if tag == some "!" then none else tag) style text
    | some .flowSequence =>
      skip
      return .sequence anchor tag (← readFlowItems fuel true)
    | some .flowMapping =>
      skip
      return .mapping anchor tag (← readFlowEntries fuel true)
    | some .blockSequence =>
      if block then
        skip
        return .sequence anchor tag (← readBlockItems fuel)
      return .scalar anchor tag .plain ""
    | some .blockMapping =>
      if block then
        skip
        return .mapping anchor tag (← readBlockEntries fuel)
      return .scalar anchor tag .plain ""
    | some .blockEntry =>
      if indentless then return .sequence anchor tag (← readIndentlessItems fuel)
      return .scalar anchor tag .plain ""
    | _ => return .scalar anchor tag .plain ""

/-- Reads a node that is left out before one of some tokens. -/
def readNodeUnless : Nat → List YamlToken → Bool → Bool → NodeM YamlNode
  | 0, _, _, _ => failure
  | fuel + 1, ends, block, indentless => do
    if ← isAt ends then return .empty else readNode fuel block indentless

def readBlockItems : Nat → NodeM (List YamlNode)
  | 0 => failure
  | fuel + 1 => do
    if ← accept .blockEntry then
      let item ← readNodeUnless fuel [.blockEntry, .blockEnd] true false
      return item :: (← readBlockItems fuel)
    if ← accept .blockEnd then return []
    failure

/-- Reads the items of a sequence at the indentation of the mapping around it. -/
def readIndentlessItems : Nat → NodeM (List YamlNode)
  | 0 => failure
  | fuel + 1 => do
    if ← accept .blockEntry then
      let item ← readNodeUnless fuel [.blockEntry, .key, .value, .blockEnd] true false
      return item :: (← readIndentlessItems fuel)
    return []

def readBlockEntries : Nat → NodeM (List (YamlNode × YamlNode))
  | 0 => failure
  | fuel + 1 => do
    if ← accept .key then
      let ends := [YamlToken.key, .value, .blockEnd]
      let key ← readNodeUnless fuel ends true true
      let value ←
        if ← accept .value then readNodeUnless fuel ends true true else pure .empty
      return (key, value) :: (← readBlockEntries fuel)
    if ← accept .blockEnd then return []
    failure

/-- Reads the items of a flow sequence, and its end. A pair among them is a mapping of its own; if
its key is left out, whatever comes next is skipped. -/
def readFlowItems : Nat → Bool → NodeM (List YamlNode)
  | 0, _ => failure
  | fuel + 1, first => do
    if ← accept .flowSequenceEnd then return []
    if !first then
      if !(← accept .flowEntry) then failure
    if ← accept .key then
      let key ←
        if ← isAt [.value, .flowEntry, .flowSequenceEnd] then
          skip
          pure .empty
        else readNode fuel false false
      let value ←
        if ← accept .value then
          readNodeUnless fuel [.flowEntry, .flowSequenceEnd] false false
        else pure .empty
      return .mapping none none [(key, value)] :: (← readFlowItems fuel false)
    if ← accept .flowSequenceEnd then return []
    let item ← readNode fuel false false
    return item :: (← readFlowItems fuel false)

def readFlowEntries : Nat → Bool → NodeM (List (YamlNode × YamlNode))
  | 0, _ => failure
  | fuel + 1, first => do
    if ← accept .flowMappingEnd then return []
    if !first then
      if !(← accept .flowEntry) then failure
    if ← accept .key then
      let ends := [YamlToken.flowEntry, .flowMappingEnd]
      let key ← readNodeUnless fuel (.value :: ends) false false
      let value ←
        if ← accept .value then readNodeUnless fuel ends false false else pure .empty
      return (key, value) :: (← readFlowEntries fuel false)
    if ← accept .flowMappingEnd then return []
    let key ← readNode fuel false false
    return (key, .empty) :: (← readFlowEntries fuel false)

end

end NodeM

/-- Takes the directives of a document: at most one version, `1.1` or `1.2`, and no handle
twice. -/
def takeDirectives (versioned : Bool) (handles : List (String × String)) :
    List YamlToken → Option (List (String × String) × List YamlToken)
  | .version major minor :: tokens =>
    if versioned || major != 1 || (minor != 1 && minor != 2) then none
    else takeDirectives true handles tokens
  | .tagHandle handle lead :: tokens =>
    if (field? handles handle).isSome then none
    else takeDirectives versioned ((handle, lead) :: handles) tokens
  | tokens => some (handles, tokens)

/-- The handles that need no directive. -/
def knownHandles : List (String × String) :=
  [("!", "!"), ("!!", "tag:yaml.org,2002:")]

/-- Reads the only document of a stream, `none` inside if the stream has none. -/
def readDocument (tokens : List YamlToken) : Option (Option YamlNode) := do
  if tokens.isEmpty then return none
  let (handles, rest) ← takeDirectives false [] tokens
  let marked := rest.head? == some .documentStart
  guard (marked || rest.length == tokens.length)
  let rest := if marked then rest.tail else rest
  let scan : NodeScan := ⟨rest, handles ++ knownHandles, []⟩
  let (node, scan) ←
    if marked && (rest.isEmpty || rest.head? == some .documentEnd) then some (.empty, scan)
    else (NodeM.readNode (3 * rest.length + 3) true false).run scan
  guard (scan.tokens.all (· == .documentEnd))
  return some node

mutual

/-- The anchored nodes of a tree in the order of their starts. -/
def YamlNode.anchored : YamlNode → List (Nat × YamlNode)
  | node@(.scalar (some n) ..) => [(n, node)]
  | .scalar none .. => []
  | node@(.sequence anchor _ items) =>
    (anchor.map fun n => (n, node)).toList ++ anchoredItems items
  | node@(.mapping anchor _ entries) =>
    (anchor.map fun n => (n, node)).toList ++ anchoredEntries entries
  | .alias _ => []

def anchoredItems : List YamlNode → List (Nat × YamlNode)
  | [] => []
  | item :: items => item.anchored ++ anchoredItems items

def anchoredEntries : List (YamlNode × YamlNode) → List (Nat × YamlNode)
  | [] => []
  | (key, value) :: entries => key.anchored ++ (value.anchored ++ anchoredEntries entries)

end

mutual

/-- How many scalars, aliases and ends of collections a tree has. -/
def YamlNode.events : YamlNode → Nat
  | .scalar .. => 1
  | .sequence _ _ items => itemEvents items + 2
  | .mapping _ _ entries => entryEvents entries + 2
  | .alias _ => 1

def itemEvents : List YamlNode → Nat
  | [] => 0
  | item :: items => item.events + itemEvents items

def entryEvents : List (YamlNode × YamlNode) → Nat
  | [] => 0
  | (key, value) :: entries => key.events + value.events + entryEvents entries

end

/-- A document: its tree, if it has one, and the anchored nodes in it. -/
structure YamlDocument where
  root : Option YamlNode
  anchored : List (Nat × YamlNode)
  events : Nat
deriving Inhabited

/-- What an alias stands for: of the nodes with its number, the one that starts last. -/
def YamlDocument.target? (document : YamlDocument) (number : Nat) : Option YamlNode :=
  (document.anchored.filter (·.1 == number)).getLast?.map (·.2)

/-- The document of a text that holds at most one. -/
def YamlDocument.ofText? (text : String) : Option YamlDocument := do
  match ← readDocument (← YamlToken.ofText? text) with
  | none => return ⟨none, [], 1⟩
  | some node => return ⟨some node, node.anchored, node.events⟩

end WidgetLocator
