import WidgetLocator.Yaml.Content

namespace WidgetLocator

inductive ScalarStyle where
  | plain
  | quoted
  | literal
  | folded
deriving DecidableEq, Repr, Inhabited

inductive YamlToken where
  | version (major minor : Nat)
  | tagHandle (handle lead : String)
  | documentStart
  | documentEnd
  | blockSequence
  | blockMapping
  | blockEnd
  | flowSequence
  | flowSequenceEnd
  | flowMapping
  | flowMappingEnd
  | flowEntry
  | blockEntry
  | key
  | value
  | alias (name : String)
  | anchor (name : String)
  | tag (handle suffix : String)
  | scalar (style : ScalarStyle) (text : String)
deriving DecidableEq, Repr, Inhabited

/-- A place where a key may have started, and the number of its first token. -/
structure PossibleKey where
  token : Nat
  /-- Whether nothing but a key can stand there. -/
  required : Bool
  line : Nat
  column : Nat
  index : Nat

/-- The tokens up to a place, with the open blocks and the possible keys there. -/
structure TokenScan where
  cursor : Cursor
  /-- The column of the innermost block, `-1` outside of all. -/
  indent : Int
  /-- The columns of the blocks around it. -/
  outer : List Int
  /-- Whether a key may start here. -/
  keyAllowed : Bool
  /-- The possible key of the block, and before it one for each open flow collection. -/
  keys : List (Option PossibleKey)
  tokens : Array YamlToken

/-- Reads the rest of a tag: characters of a URI and escapes of single bytes. Commas and brackets
are left alone unless they are said to belong to it. -/
def tagCharacters (withFlow : Bool) : Nat → Cursor → List UInt8 → Option (List UInt8 × Cursor)
  | 0, _, _ => none
  | fuel + 1, s, done =>
    match s.rest with
    | [] => some (done.reverse, s)
    | c :: rest =>
      if c = '%' then
        match rest with
        | a :: b :: _ =>
          match hexNumber? [a, b] with
          | some n => tagCharacters withFlow fuel (s.skip 3) (UInt8.ofNat n :: done)
          | none => none
        | _ => none
      else if isYamlNameChar c || [';', '/', '?', ':', '@', '&', '=', '+', '$', '.', '!', '~', '*',
          '\'', '(', ')'].contains c || (withFlow && [',', '[', ']'].contains c) then
        tagCharacters withFlow fuel (s.skip 1) (UInt8.ofNat c.toNat :: done)
      else some (done.reverse, s)

def tagText (withFlow : Bool) (s : Cursor) : Option (String × Cursor) := do
  let (bytes, s) ← tagCharacters withFlow (s.rest.length + 1) s []
  let text ← String.fromUTF8? ⟨bytes.toArray⟩
  return (text, s)

/-- Reads a handle: an exclamation mark, or a name between two. Without the second mark the name
comes back apart from a handle. -/
def tagHandle? (s : Cursor) : Option (Bool × String × Cursor) :=
  if s.isAt '!' then
    let name := (s.rest.drop 1).takeWhile isYamlNameChar
    let s := s.skip (1 + name.length)
    if s.isAt '!' then some (true, String.ofList ('!' :: name ++ ['!']), s.skip 1)
    else some (false, String.ofList name, s)
  else none

/-- Reads a tag in one of its forms: a verbatim one, one with a handle, a local one, or a single
exclamation mark, which has no handle. -/
def tagToken (inFlow : Bool) (s : Cursor) : Option (YamlToken × Cursor) := do
  let (token, s) ←
    if s.peekAt? 1 == some '<' then do
      let (text, s) ← tagText true (s.skip 2)
      guard (s.isAt '>' && !text.isEmpty)
      some (.tag "" text, s.skip 1)
    else do
      let (handled, name, s) ← tagHandle? s
      let (suffix, s) ← tagText false s
      if handled then
        guard !suffix.isEmpty
        some (.tag name suffix, s)
      else if (name ++ suffix).isEmpty then some (.tag "" "!", s)
      else some (.tag "!" (name ++ suffix), s)
  guard (s.isGapAt 0 || (inFlow && s.isAt ','))
  return (token, s)

/-- Reads the number of a version, of at most nine digits. -/
def versionNumber (s : Cursor) : Option (Nat × Cursor) :=
  let digits := s.rest.takeWhile isAsciiDigit
  if digits.isEmpty || 9 < digits.length then none
  else some (decimalValue digits, s.skip digits.length)

/-- Reads a directive, at its percent sign, up to the next line. -/
def directiveToken (s : Cursor) : Option (YamlToken × Cursor) := do
  let name := (s.rest.drop 1).takeWhile isYamlNameChar
  let s := s.skip (1 + name.length)
  guard (s.isGapAt 0)
  let (token, s) ←
    if name = "YAML".toList then do
      let (major, s) ← versionNumber s.skipBlanks
      guard (s.isAt '.')
      let (minor, s) ← versionNumber (s.skip 1)
      some (.version major minor, s)
    else if name = "TAG".toList then do
      let (handled, name, s) ← tagHandle? s.skipBlanks
      guard (handled || name.isEmpty)
      guard s.atBlank
      let (lead, s) ← tagText true s.skipBlanks
      guard (!lead.isEmpty && s.isGapAt 0)
      some (.tagHandle (if handled then name else "!") lead, s)
    else none
  let s := s.skipBlanks.skipComment
  guard s.atBreakOrEnd
  return (token, s.skipBreak)

/-- Reads the name of an anchor or alias, after its indicator. -/
def anchorName (s : Cursor) : Option (String × Cursor) :=
  let name := (s.rest.drop 1).takeWhile isYamlNameChar
  let s := s.skip (1 + name.length)
  let ends := s.isGapAt 0 || s.peek?.any fun c =>
    ['?', ':', ',', ']', '}', '%', '@', '\x60'].contains c
  if !name.isEmpty && ends then some (String.ofList name, s) else none

namespace TokenScan

def start (text : List Char) : TokenScan :=
  ⟨.start text, -1, [], true, [none], #[]⟩

def inFlow (t : TokenScan) : Bool :=
  1 < t.keys.length

def emit (t : TokenScan) (token : YamlToken) : TokenScan :=
  { t with tokens := t.tokens.push token }

def skip (t : TokenScan) (n : Nat) : TokenScan :=
  { t with cursor := t.cursor.skip n }

def allowKey (t : TokenScan) (allowed : Bool) : TokenScan :=
  { t with keyAllowed := allowed }

/-- Opens a block at a deeper column, its token being put before the token of a number. -/
def openBlock (t : TokenScan) (column : Nat) (place : Nat) (token : YamlToken) : TokenScan :=
  if !t.inFlow && t.indent < (column : Int) then
    { t with
      indent := column
      outer := t.indent :: t.outer
      tokens := t.tokens.insertIdxIfInBounds place token }
  else t

/-- Closes the blocks that are deeper than a column. -/
def closeBlocks (column : Int) : List Int → TokenScan → TokenScan
  | [], t => t
  | indent :: outer, t =>
    if t.inFlow || t.indent ≤ column then t
    else closeBlocks column outer { t.emit .blockEnd with indent := indent, outer := outer }

/-- Gives up the possible key of the innermost collection, unless it is required. -/
def dropKey (t : TokenScan) : Option TokenScan :=
  match t.keys with
  | some key :: rest => if key.required then none else some { t with keys := none :: rest }
  | _ => some t

/-- Marks this place as a possible key, if a key may start here. -/
def markKey (t : TokenScan) : Option TokenScan :=
  if t.keyAllowed then
    t.dropKey.map fun t =>
      let s := t.cursor
      let required := !t.inFlow && t.indent == (s.column : Int)
      { t with keys := some ⟨t.tokens.size, required, s.line, s.column, s.index⟩ :: t.keys.tail }
  else some t

/-- Gives up possible keys from earlier lines and from more than 1024 characters before. -/
def dropStaleKeys (t : TokenScan) : Option TokenScan :=
  let stale (key : PossibleKey) : Bool :=
    key.line < t.cursor.line || key.index + 1024 < t.cursor.index
  (t.keys.mapM fun key => match key with
    | some key => if stale key then (if key.required then none else some none) else some (some key)
    | none => some none).map fun keys => { t with keys := keys }

/-- Goes over blanks, comments and breaks. Tabs count as blanks only where no key may start. -/
def skipGap : Nat → TokenScan → TokenScan
  | 0, t => t
  | fuel + 1, t =>
    let s := t.cursor
    let s := if s.index = 0 && s.isAt '\ufeff' then s.skip 1 else s
    let s := s.skipWhile fun c => c == ' ' || (c == '\t' && (t.inFlow || !t.keyAllowed))
    let s := s.skipComment
    if s.atBreak then
      skipGap fuel { t with cursor := s.skipBreak, keyAllowed := !t.inFlow || t.keyAllowed }
    else { t with cursor := s }

/-- Adds a token that was read from this place, where a key may have started. -/
def addContent (t : TokenScan) (read : Option (YamlToken × Cursor)) : Option TokenScan := do
  let t ← t.markKey
  let (token, s) ← read
  return { t.emit token with cursor := s, keyAllowed := false }

def openFlow (t : TokenScan) (token : YamlToken) : Option TokenScan := do
  let t ← t.markKey
  return ({ t with keys := none :: t.keys, keyAllowed := true }.skip 1).emit token

def closeFlow (t : TokenScan) (token : YamlToken) : Option TokenScan := do
  let t ← t.dropKey
  let keys := if t.inFlow then t.keys.tail else t.keys
  return ({ t with keys := keys, keyAllowed := false }.skip 1).emit token

/-- Opens a block for an indicator, if one may stand here. -/
def openFor (t : TokenScan) (token : YamlToken) : Option TokenScan :=
  if t.inFlow then some t
  else if t.keyAllowed then some (t.openBlock t.cursor.column t.tokens.size token)
  else none

def blockEntry (t : TokenScan) : Option TokenScan := do
  let t ← t.openFor .blockSequence
  let t ← t.dropKey
  return ((t.allowKey true).skip 1).emit .blockEntry

def key (t : TokenScan) : Option TokenScan := do
  let t ← t.openFor .blockMapping
  let t ← t.dropKey
  return ((t.allowKey !t.inFlow).skip 1).emit .key

/-- Adds a colon. It turns the possible key before it into a key. -/
def value (t : TokenScan) : Option TokenScan :=
  match t.keys with
  | some k :: rest =>
    let t := { t with tokens := t.tokens.insertIdxIfInBounds k.token .key }
    let t := t.openBlock k.column k.token .blockMapping
    some (({ t with keys := none :: rest, keyAllowed := false }.skip 1).emit .value)
  | _ => do
    let t ← t.openFor .blockMapping
    return ((t.allowKey !t.inFlow).skip 1).emit .value

/-- Adds a document marker or a directive, which end all blocks. -/
def addMarker (t : TokenScan) (token : YamlToken) (s : Cursor) : Option TokenScan := do
  let t := closeBlocks (-1) t.outer t
  let t ← t.dropKey
  return { t.emit token with cursor := s, keyAllowed := false }

def blockScalar (t : TokenScan) (literal : Bool) : Option TokenScan := do
  let t ← t.dropKey
  let (text, s) ← blockContent literal t.indent (t.cursor.skip 1)
  let style := if literal then ScalarStyle.literal else .folded
  return { t.emit (.scalar style text) with cursor := s, keyAllowed := true }

def quotedScalar (t : TokenScan) (single : Bool) : Option TokenScan :=
  let s := t.cursor.skip 1
  t.addContent ((quotedContent single (s.rest.length + 1) s .empty).map fun (s, f) =>
    (.scalar .quoted f.result, s))

/-- Adds a plain scalar. A key may start after it if it ended with a break. -/
def plainScalar (t : TokenScan) : Option TokenScan := do
  let t ← t.markKey
  let s := t.cursor
  let (s, f) ← plainContent t.inFlow (t.indent + 1) (s.rest.length + 1) s .empty
  return { t.emit (.scalar .plain f.result) with cursor := s, keyAllowed := f.broken }

/-- Whether a plain scalar may start with a character, given whether a gap follows it. -/
def startsPlain (inFlow gap : Bool) (c : Char) : Bool :=
  if c = '-' then !gap
  else if c = '?' || c = ':' then !inFlow && !gap
  else !(isYamlBlank c || isFlowIndicator c ||
    ['#', '&', '*', '!', '|', '>', '\'', '"', '%', '@', '\x60'].contains c)

/-- Adds the next token, given the character that it starts with. -/
def addToken (t : TokenScan) (c : Char) : Option TokenScan :=
  let s := t.cursor
  let gap := s.isGapAt 1
  if s.column = 0 && c = '%' then do
    let (token, s) ← directiveToken s
    t.addMarker token s
  else if s.isMarker '-' then t.addMarker .documentStart (s.skip 3)
  else if s.isMarker '.' then t.addMarker .documentEnd (s.skip 3)
  else if c = '[' then t.openFlow .flowSequence
  else if c = '{' then t.openFlow .flowMapping
  else if c = ']' then t.closeFlow .flowSequenceEnd
  else if c = '}' then t.closeFlow .flowMappingEnd
  else if c = ',' then do
    let t ← t.dropKey
    return ((t.allowKey true).skip 1).emit .flowEntry
  else if c = '-' && gap then t.blockEntry
  else if c = '?' && (t.inFlow || gap) then t.key
  else if c = ':' && (t.inFlow || gap) then t.value
  else if c = '*' then t.addContent ((anchorName s).map fun (name, s) => (.alias name, s))
  else if c = '&' then t.addContent ((anchorName s).map fun (name, s) => (.anchor name, s))
  else if c = '!' then t.addContent (tagToken t.inFlow s)
  else if c = '|' && !t.inFlow then t.blockScalar true
  else if c = '>' && !t.inFlow then t.blockScalar false
  else if c = '\'' then t.quotedScalar true
  else if c = '"' then t.quotedScalar false
  else if startsPlain t.inFlow gap c then t.plainScalar
  else none

/-- Adds all tokens up to the end of the text. -/
def run : Nat → TokenScan → Option TokenScan
  | 0, _ => none
  | fuel + 1, t =>
    match (skipGap (t.cursor.rest.length + 1) t).dropStaleKeys with
    | none => none
    | some t =>
      let t := closeBlocks t.cursor.column t.outer t
      match t.cursor.peek? with
      | none => (closeBlocks (-1) t.outer t).dropKey
      | some c => (t.addToken c).bind (run fuel)

end TokenScan

/-- The tokens of a text, all of whose characters are allowed in YAML. -/
def YamlToken.ofText? (text : String) : Option (List YamlToken) := do
  let chars := text.toList
  guard (chars.all isYamlChar)
  let t ← TokenScan.run (chars.length + 1) (.start chars)
  return t.tokens.toList

end WidgetLocator
