import WidgetLocator.Yaml.Cursor

namespace WidgetLocator

/-- Content read so far, and the blanks or breaks after it. Texts are reversed. -/
structure Folding where
  content : List Char
  blanks : List Char
  /-- Whether a line has ended after the content. -/
  broken : Bool
  first : List Char
  others : List Char
deriving Inhabited

namespace Folding

def empty : Folding :=
  ⟨[], [], false, [], []⟩

def push (f : Folding) (c : Char) : Folding :=
  { f with content := c :: f.content }

/-- Takes what follows the content into it. A single break becomes a blank, and of several the
first is dropped; separators that are no line feeds stay. -/
def join (f : Folding) : Folding :=
  let content :=
    if !f.broken then f.blanks ++ f.content
    else if f.first == ['\n'] then
      if f.others.isEmpty then ' ' :: f.content else f.others ++ f.content
    else f.others ++ f.first ++ f.content
  ⟨content, [], false, [], []⟩

/-- Takes the break at a place. -/
def addBreak (f : Folding) (s : Cursor) : Folding :=
  if f.broken then { f with others := s.breakContent ++ f.others }
  else { f with blanks := [], broken := true, first := s.breakContent }

def result (f : Folding) : String :=
  String.ofList f.content.reverse

end Folding

/-- The character that ends a key or an entry in a flow collection. -/
def isFlowIndicator (c : Char) : Bool :=
  c == ',' || c == '[' || c == ']' || c == '{' || c == '}'

/-- Reads a word of a plain scalar: up to a blank or break, a colon before one, or an indicator in
a flow collection, where a colon must not stand right before an indicator. -/
def plainWord (inFlow : Bool) : Nat → Cursor → Folding → Option (Cursor × Folding)
  | 0, _, _ => none
  | fuel + 1, s, f =>
    match s.rest with
    | [] => some (s, f)
    | c :: _ =>
      if s.isGapAt 0 then some (s, f)
      else if inFlow && c == ':' && (s.peekAt? 1).any fun d => d == '?' || isFlowIndicator d then
        none
      else if (c == ':' && s.isGapAt 1) || (inFlow && isFlowIndicator c) then some (s, f)
      else plainWord inFlow fuel (s.skip 1) (f.join.push c)

/-- Goes over the blanks and breaks after a word. After a break, a tab must not stand in the
indentation. -/
def plainGap (indent : Int) : Nat → Cursor → Folding → Option (Cursor × Folding)
  | 0, _, _ => none
  | fuel + 1, s, f =>
    match s.rest with
    | [] => some (s, f)
    | c :: _ =>
      if isYamlBlank c then
        if f.broken then
          if (s.column : Int) < indent && c == '\t' then none else plainGap indent fuel (s.skip 1) f
        else plainGap indent fuel (s.skip 1) { f with blanks := c :: f.blanks }
      else if isYamlBreak c then plainGap indent fuel s.skipBreak (f.addBreak s)
      else some (s, f)

/-- Reads a plain scalar. Outside flow collections it ends with its indentation. -/
def plainContent (inFlow : Bool) (indent : Int) : Nat → Cursor → Folding → Option (Cursor × Folding)
  | 0, _, _ => none
  | fuel + 1, s, f =>
    if s.atDocumentMarker || s.isAt '#' then some (s, f)
    else
      match plainWord inFlow (s.rest.length + 1) s f with
      | none => none
      | some (s, f) =>
        if s.atBlank || s.atBreak then
          match plainGap indent (s.rest.length + 1) s f with
          | none => none
          | some (s, f) =>
            if !inFlow && (s.column : Int) < indent then some (s, f)
            else plainContent inFlow indent fuel s f
        else some (s, f)

/-- What an escape of one letter stands for. -/
def yamlEscape? : Char → Option Char
  | '0' => some '\x00'
  | 'a' => some '\x07'
  | 'b' => some '\x08'
  | 't' => some '\t'
  | '\t' => some '\t'
  | 'n' => some '\n'
  | 'v' => some '\x0b'
  | 'f' => some '\x0c'
  | 'r' => some '\r'
  | 'e' => some '\x1b'
  | ' ' => some ' '
  | '"' => some '"'
  | '/' => some '/'
  | '\\' => some '\\'
  | 'N' => some '\u0085'
  | '_' => some '\u00a0'
  | 'L' => some '\u2028'
  | 'P' => some '\u2029'
  | _ => none

/-- Reads an escape of a quoted scalar, at its backslash. -/
def escapedChar (s : Cursor) : Option (Char × Cursor) :=
  match s.rest with
  | _ :: c :: digits =>
    let width := if c = 'x' then 2 else if c = 'u' then 4 else if c = 'U' then 8 else 0
    if width = 0 then (yamlEscape? c).map fun x => (x, s.skip 2)
    else
      let digits := digits.take width
      if digits.length < width then none
      else
        match (hexNumber? digits).bind scalarChar? with
        | some x => some (x, s.skip (2 + width))
        | none => none
  | _ => none

/-- Reads a word of a quoted scalar: up to the quote, a blank or a break. An escaped break ends it
without content. -/
def quotedWord (single : Bool) : Nat → Cursor → Folding → Option (Cursor × Folding)
  | 0, _, _ => none
  | fuel + 1, s, f =>
    let quote := if single then '\'' else '"'
    match s.rest with
    | [] => some (s, f)
    | c :: rest =>
      if s.isGapAt 0 then some (s, f)
      else if single && c == '\'' && rest.head? == some '\'' then
        quotedWord single fuel (s.skip 2) (f.push '\'')
      else if c == quote then some (s, f)
      else if !single && c == '\\' then
        if rest.head?.any isYamlBreak then
          some ((s.skip 1).skipBreak, { f with broken := true })
        else
          match escapedChar s with
          | some (x, s) => quotedWord single fuel s (f.push x)
          | none => none
      else quotedWord single fuel (s.skip 1) (f.push c)

/-- Goes over the blanks and breaks in a quoted scalar. -/
def quotedGap : Nat → Cursor → Folding → Cursor × Folding
  | 0, s, f => (s, f)
  | fuel + 1, s, f =>
    match s.rest with
    | [] => (s, f)
    | c :: _ =>
      if isYamlBlank c then
        quotedGap fuel (s.skip 1) (if f.broken then f else { f with blanks := c :: f.blanks })
      else if isYamlBreak c then quotedGap fuel s.skipBreak (f.addBreak s)
      else (s, f)

/-- Reads a quoted scalar after its opening quote. -/
def quotedContent (single : Bool) : Nat → Cursor → Folding → Option (Cursor × Folding)
  | 0, _, _ => none
  | fuel + 1, s, f =>
    let quote := if single then '\'' else '"'
    if s.atDocumentMarker || s.atEnd then none
    else
      match quotedWord single (s.rest.length + 1) s f with
      | none => none
      | some (s, f) =>
        if s.isAt quote && !f.broken then some (s.skip 1, f)
        else if s.isAt quote then some (s.skip 1, { f with broken := false })
        else
          let (s, f) := quotedGap (s.rest.length + 1) s f
          quotedContent single fuel s f.join

/-- How a block scalar ends: without its last break, with one, or with all of them. -/
inductive Chomping where
  | strip
  | clip
  | keep
deriving DecidableEq, Repr

/-- Reads the header of a block scalar after its indicator: chomping and indentation, in any
order. -/
def blockHeader (s : Cursor) : Option (Chomping × Nat × Cursor) :=
  let chomping? : Option Char → Option Chomping
    | some '+' => some .keep
    | some '-' => some .strip
    | _ => none
  let width? : Option Char → Option Nat
    | some c => if isAsciiDigit c then some (digitValue c) else none
    | none => none
  match chomping? s.peek?, width? s.peek? with
  | some chomping, _ =>
    match width? (s.peekAt? 1) with
    | some 0 => none
    | some n => some (chomping, n, s.skip 2)
    | none => some (chomping, 0, s.skip 1)
  | none, some 0 => none
  | none, some n =>
    match chomping? (s.peekAt? 1) with
    | some chomping => some (chomping, n, s.skip 2)
    | none => some (.clip, n, s.skip 1)
  | none, none => some (.clip, 0, s)

/-- Goes over indentation and empty lines of a block scalar. The indentation is not known as long
as it is zero; a tab must not stand in it. The breaks come reversed, with the widest column. -/
def blockGap (indent : Nat) : Nat → Cursor → List Char → Nat → Option (Cursor × List Char × Nat)
  | 0, _, _, _ => none
  | fuel + 1, s, breaks, widest =>
    let spaces := (s.rest.takeWhile (· == ' ')).length
    let s := s.skip (if indent = 0 then spaces else min spaces (indent - s.column))
    let widest := max widest s.column
    if (indent = 0 || s.column < indent) && s.isAt '\t' then none
    else if s.atBreak then blockGap indent fuel s.skipBreak (s.breakContent ++ breaks) widest
    else some (s, breaks, widest)

/-- The lines of a block scalar so far, and the breaks after them. Texts are reversed. -/
structure BlockLines where
  content : List Char
  last : List Char
  others : List Char
  /-- Whether the last line started with a blank. -/
  indented : Bool

/-- Reads the lines of a block scalar. When folding, a break between two lines that start with no
blank becomes a blank, or is dropped before empty lines. -/
def blockLines (literal : Bool) (indent : Nat) : Nat → Cursor → BlockLines →
    Option (Cursor × BlockLines)
  | 0, _, _ => none
  | fuel + 1, s, b =>
    if s.column = indent ∧ !s.atEnd then
      let indented := s.atBlank
      let gap :=
        if !literal && b.last == ['\n'] && !b.indented && !indented then
          if b.others.isEmpty then [' '] else b.others
        else b.others ++ b.last
      let line := s.rest.takeWhile fun c => !isYamlBreak c
      let s := s.skip line.length
      let last := s.breakContent
      match blockGap indent (s.rest.length + 1) s.skipBreak [] 0 with
      | none => none
      | some (s, others, _) =>
        blockLines literal indent fuel s ⟨line.reverse ++ gap ++ b.content, last, others, indented⟩
    else some (s, b)

/-- Reads a block scalar after its indicator, inside a block of the given indentation. -/
def blockContent (literal : Bool) (parent : Int) (s : Cursor) : Option (String × Cursor) := do
  let (chomping, width, s) ← blockHeader s
  let s := s.skipBlanks.skipComment
  guard s.atBreakOrEnd
  let s := s.skipBreak
  let base := (max parent 0).toNat
  let given := if width = 0 then 0 else base + width
  let (s, breaks, widest) ← blockGap given (s.rest.length + 1) s [] 0
  let indent := if given = 0 then max widest (max (parent + 1).toNat 1) else given
  let (s, b) ← blockLines literal indent (s.rest.length + 1) s ⟨[], [], breaks, false⟩
  let tail := match chomping with
    | .strip => []
    | .clip => b.last
    | .keep => b.others ++ b.last
  return (String.ofList (tail ++ b.content).reverse, s)

end WidgetLocator
