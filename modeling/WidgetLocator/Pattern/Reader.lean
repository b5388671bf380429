import WidgetLocator.Pattern.Tree
import WidgetLocator.Unicode

namespace WidgetLocator

/-- What is left of a pattern, whether blanks and comments in it are skipped, and the group names
so far. -/
structure PatternRest where
  text : List Char
  verbose : Bool
  names : List (List Char)

abbrev PatternReader := StateT PatternRest Option

/-- A text without the blanks and comments at its start. -/
def skipVerbose (inComment : Bool) : List Char → List Char
  | [] => []
  | c :: cs =>
    if inComment then skipVerbose (c ≠ '\n') cs
    else if c = '#' then skipVerbose true cs
    else if isBlank c then skipVerbose false cs
    else c :: cs

namespace PatternReader

def rest : PatternReader (List Char) :=
  return (← get).text

def setRest (text : List Char) : PatternReader Unit :=
  modify fun s => { s with text }

def skip : PatternReader Unit :=
  modify fun s => if s.verbose then { s with text := skipVerbose false s.text } else s

def advance : PatternReader Unit :=
  modify fun s => { s with text := s.text.drop 1 }

def advanceSkip : PatternReader Unit := do
  advance
  skip

/-- The next character; fails at the end. -/
def peek : PatternReader Char := do
  match ← rest with
  | c :: _ => return c
  | [] => failure

def atEnd : PatternReader Bool :=
  return (← rest).isEmpty

/-- Goes over the next characters if they are as given. -/
def take? (text : String) : PatternReader Bool := do
  match dropLeading text.toList (← rest) with
  | some after => setRest after; return true
  | none => return false

/-- Reads characters as long as they are accepted, going over what is skipped after each. -/
def takeWhileSkip (accepts : Char → Bool) : Nat → PatternReader (List Char)
  | 0 => return []
  | fuel + 1 => do
    match ← rest with
    | c :: _ =>
      if accepts c then
        advanceSkip
        return c :: (← takeWhileSkip accepts fuel)
      else return []
    | [] => return []

/-- Reads the characters up to a closing brace, and the brace. -/
def braced (accepts : Char → Bool) : PatternReader (List Char) := do
  advanceSkip
  let content ← takeWhileSkip (fun c => c ≠ '}' && accepts c) (← rest).length
  match ← rest with
  | '}' :: _ => return content
  | _ => failure

/-- The characters that are escaped to stand for themselves. -/
def isEscapable (c : Char) : Bool :=
  c.toNat < 128 && !isAsciiLetter c && !isAsciiDigit c && c ≠ '<' && c ≠ '>'

def isHexDigit (c : Char) : Bool :=
  (hexValue? c).isSome

def hexDigits : Nat → PatternReader (List Char)
  | 0 => return []
  | count + 1 => do
    let c ← peek
    guard (isHexDigit c)
    advanceSkip
    return c :: (← hexDigits count)

/-- Reads the code of a hexadecimal escape, after its letter. -/
def hexEscape (letter : Char) : PatternReader Literal := do
  advanceSkip
  let braces := (← peek) == '{'
  let digits ←
    if braces then do
      let digits ← braced isHexDigit
      advanceSkip
      guard !digits.isEmpty
      pure digits
    else hexDigits (if letter = 'x' then 2 else if letter = 'u' then 4 else 8)
  let n ← hexNumber? digits
  let c ← scalarChar? n
  return ⟨c, letter == 'x' && !braces⟩

/-- Splits the content of a property escape into a name and a value. -/
def propertyQuery (content : List Char) : PropertyQuery :=
  let rec notEqual : List Char → Option (List Char × List Char)
    | '!' :: '=' :: rest => some ([], rest)
    | c :: rest => (notEqual rest).map fun (a, b) => (c :: a, b)
    | [] => none
  match notEqual content <|> splitAtFirst ':' content <|> splitAtFirst '=' content with
  | some (property, value) => .value property value
  | none => .name content

/-- Reads a property escape, after its letter. -/
def propertyEscape (negated : Bool) : PatternReader ClassAtom := do
  advanceSkip
  match ← peek with
  | '{' =>
    let content ← braced fun _ => true
    advance
    return .property (propertyQuery content) negated
  | '\\' => failure
  | c =>
    advanceSkip
    return .property (.name [c]) negated

/-- A class, a character, the dot or an assertion. -/
inductive Primitive where
  | atom (atom : ClassAtom)
  | dot
  | assertion (assertion : Assertion)

/-- Reads the braces that can follow a word boundary. Braces that hold no name are left. -/
def boundaryKind : PatternReader Assertion := do
  let before ← get
  match before.text with
  | '{' :: _ =>
    let isNameChar (c : Char) : Bool := isAsciiLetter c || c == '-'
    advanceSkip
    let first ← peek
    if !isNameChar first then
      set before
      return .wordBoundary
    else
      let name ← takeWhileSkip isNameChar (← rest).length
      guard ((← peek) == '}')
      advance
      if name = "start".toList then return .wordStart
      else if name = "end".toList then return .wordEnd
      else if name = "start-half".toList then return .wordStartHalf
      else if name = "end-half".toList then return .wordEndHalf
      else failure
  | _ => return .wordBoundary

/-- Reads an escape, at its backslash. -/
def escape : PatternReader Primitive := do
  advance
  let c ← peek
  let literal (x : Char) : Primitive := .atom (.literal ⟨x, false⟩)
  if c = 'x' ∨ c = 'u' ∨ c = 'U' then return .atom (.literal (← hexEscape c))
  else if c = 'p' ∨ c = 'P' then return .atom (← propertyEscape (c == 'P'))
  else
    advance
    if isEscapable c then return literal c
    else
      match c with
      | 'd' => return .atom (.shorthand .digit false)
      | 'D' => return .atom (.shorthand .digit true)
      | 's' => return .atom (.shorthand .blank false)
      | 'S' => return .atom (.shorthand .blank true)
      | 'w' => return .atom (.shorthand .word false)
      | 'W' => return .atom (.shorthand .word true)
      | 'a' => return literal '\x07'
      | 'f' => return literal '\x0c'
      | 't' => return literal '\t'
      | 'n' => return literal '\n'
      | 'r' => return literal '\r'
      | 'v' => return literal '\x0b'
      | 'A' => return .assertion .textStart
      | 'z' => return .assertion .textEnd
      | 'b' => return .assertion (← boundaryKind)
      | 'B' => return .assertion .noWordBoundary
      | '<' => return .assertion .wordStart
      | '>' => return .assertion .wordEnd
      | _ => failure

def primitive : PatternReader Primitive := do
  match ← peek with
  | '\\' => escape
  | '.' => advance; return .dot
  | '^' => advance; return .assertion .lineStart
  | '$' => advance; return .assertion .lineEnd
  | c => advance; return .atom (.literal ⟨c, false⟩)

/-- Reads one character or escape between brackets. -/
def classPrimitive : PatternReader Primitive := do
  match ← peek with
  | '\\' => escape
  | c => advance; return .atom (.literal ⟨c, false⟩)

/-- The character after the next one, over what is skipped. -/
def peekSecond : PatternReader (Option Char) := do
  let s ← get
  let after := s.text.drop 1
  if !s.verbose then return after.head?
  else
    let blanks := after.dropWhile isBlank
    match blanks with
    | '#' :: rest => return (rest.dropWhile isBlank).head?
    | _ => return blanks.head?

def classRange : PatternReader ClassTree := do
  let first ← classPrimitive
  skip
  let next ← peek
  let second ← peekSecond
  if next ≠ '-' ∨ second = some ']' ∨ second = some '-' then
    match first with
    | .atom a => return .atom a
    | _ => failure
  else
    advanceSkip
    guard !(← atEnd)
    match first, ← classPrimitive with
    | .atom (.literal a), .atom (.literal b) =>
      guard (a.char ≤ b.char)
      return .range a b
    | _, _ => failure

/-- The classes of ASCII characters that have a name. -/
def asciiClasses : List (String × List (Nat × Nat)) := [
  ("alnum", [(48, 57), (65, 90), (97, 122)]),
  ("alpha", [(65, 90), (97, 122)]),
  ("ascii", [(0, 127)]),
  ("blank", [(9, 9), (32, 32)]),
  ("cntrl", [(0, 31), (127, 127)]),
  ("digit", [(48, 57)]),
  ("graph", [(33, 126)]),
  ("lower", [(97, 122)]),
  ("print", [(32, 126)]),
  ("punct", [(33, 47), (58, 64), (91, 96), (123, 126)]),
  ("space", [(9, 13), (32, 32)]),
  ("upper", [(65, 90)]),
  ("word", [(48, 57), (65, 90), (95, 95), (97, 122)]),
  ("xdigit", [(48, 57), (65, 70), (97, 102)])]

def asciiClass? : PatternReader (Option ClassTree) := do
  match ← rest with
  | '[' :: ':' :: text =>
    let (negated, text) := match text with
      | '^' :: rest => (true, rest)
      | _ => (false, text)
    let name := text.takeWhile (· ≠ ':')
    match text.dropWhile (· ≠ ':') with
    | ':' :: ']' :: after =>
      match asciiClasses.find? (·.1.toList == name) with
      | some (_, ranges) =>
        setRest after
        return some (.ascii ranges negated)
      | none => return none
    | _ => return none
  | _ => return none

/-- Reads the opening of a bracket: whether it is negated, and the hyphens or the closing bracket
that stand for themselves there. -/
def classOpening : PatternReader (Bool × List ClassTree) := do
  advanceSkip
  let negated := (← peek) == '^'
  if negated then advanceSkip
  guard !(← atEnd)
  let hyphens ← takeWhileSkip (· == '-') (← rest).length
  let items := hyphens.map fun c => ClassTree.atom (.literal ⟨c, false⟩)
  let next ← peek
  if items.isEmpty ∧ next = ']' then
    advanceSkip
    guard !(← atEnd)
    return (negated, [.atom (.literal ⟨']', false⟩)])
  else return (negated, items)

/-- The operation that starts here between brackets. -/
def classOperation? : PatternReader (Option ClassOperation) := do
  if ← take? "&&" then return some .intersection
  else if ← take? "--" then return some .difference
  else if ← take? "~~" then return some .symmetricDifference
  else return none

/-- Joins what was read between brackets to the operand on its left. -/
def joinOperands (left : Option (ClassTree × ClassOperation)) (items : List ClassTree) :
    ClassTree :=
  match left with
  | none => .ofItems items
  | some (tree, op) => .operation op tree (.ofItems items)

mutual

/-- Reads a bracketed class, at its opening bracket. -/
def classBrackets : Nat → PatternReader (Bool × ClassTree)
  | 0 => failure
  | fuel + 1 => do
    let (negated, items) ← classOpening
    return (negated, ← classItems fuel none items)

/-- Reads up to the closing bracket. Operations are taken from the left. -/
def classItems : Nat → Option (ClassTree × ClassOperation) → List ClassTree →
    PatternReader ClassTree
  | 0, _, _ => failure
  | fuel + 1, left, items => do
    skip
    match ← peek with
    | '[' =>
      match ← asciiClass? with
      | some item => classItems fuel left (item :: items)
      | none =>
        let (negated, inside) ← classBrackets fuel
        classItems fuel left (.bracketed negated inside :: items)
    | ']' =>
      advance
      return joinOperands left items
    | _ =>
      match ← classOperation? with
      | some op => classItems fuel (some (joinOperands left items, op)) []
      | none =>
        let item ← classRange
        classItems fuel left (item :: items)

end

/-- Whether the text starts a look-around, after its opening parenthesis. -/
def isLookAround (text : List Char) : Bool :=
  ["?=", "?!", "?<=", "?<!"].any fun p => p.toList.isPrefixOf text

def isNameStart (c : Char) : Bool :=
  c == '_' || alphabetic.contains c

def isNameChar (c : Char) : Bool :=
  c == '_' || c == '.' || c == '[' || c == ']' || unicodeAlphanumerics.contains c

/-- Reads a group name and its closing angle; no two groups share a name. -/
def groupName : PatternReader Unit := do
  let text ← rest
  let name := text.takeWhile (· ≠ '>')
  match text.dropWhile (· ≠ '>'), name with
  | '>' :: after, first :: others =>
    guard (isNameStart first && others.all isNameChar && !(← get).names.contains name)
    modify fun s => { s with text := after, names := name :: s.names }
  | _, _ => failure

def flag? : Char → Option PatternFlag
  | 'i' => some .ignoreCase
  | 'm' => some .multiLine
  | 's' => some .dotMatchesLineEnd
  | 'U' => some .swapGreed
  | 'u' => some .unicode
  | 'R' => some .carriageReturns
  | 'x' => some .verbose
  | _ => none

/-- Reads switches up to a colon or a closing parenthesis, which comes with them. A hyphen turns
off those after it; no switch comes twice and no hyphen is last. -/
def flagChange : Nat → Bool → Bool → FlagChange → PatternReader (FlagChange × Char)
  | 0, _, _, _ => failure
  | fuel + 1, on, afterHyphen, change => do
    let c ← peek
    advance
    if c = ':' ∨ c = ')' then
      guard !afterHyphen
      return (change, c)
    else if c = '-' then
      guard on
      flagChange fuel false true change
    else
      let flag ← flag? c
      guard (!change.any (·.1 == flag))
      flagChange fuel on false (change ++ [(flag, on)])

/-- Reads a number between blanks. -/
def count : PatternReader (Option Nat) := do
  setRest ((← rest).dropWhile isBlank)
  let digits ← takeWhileSkip isAsciiDigit (← rest).length
  let _ ← takeWhileSkip isBlank (← rest).length
  if digits.isEmpty then return none
  else
    let n := decimalValue digits
    guard (n < Nat.pow 2 32)
    return some n

/-- Reads the bounds of a counted repetition, at its opening brace. -/
def countBounds : PatternReader (Nat × Option Nat) := do
  advanceSkip
  guard !(← atEnd)
  let least ← count
  match ← peek with
  | ',' =>
    advanceSkip
    if (← peek) = '}' then
      advanceSkip
      return (← least, none)
    else
      let least ← least
      let most ← (← count)
      guard ((← peek) == '}' && least ≤ most)
      advanceSkip
      return (least, some most)
  | '}' =>
    advanceSkip
    let least ← least
    return (least, some least)
  | _ => failure

/-- Takes the last item for a repetition of it; there must be one that can be repeated. -/
def repeatLast (least : Nat) (most : Option Nat) : List PatternTree → Option (List PatternTree)
  | [] => none
  | .empty :: _ => none
  | .flags _ :: _ => none
  | item :: items => some (.repetition least most item :: items)

/-- Goes over the mark of a lazy repetition. -/
def lazyMark : PatternReader Unit := do
  let _ ← take? "?"

mutual

/-- Reads items and branches up to a closing parenthesis or the end. -/
def branches : Nat → List PatternTree → List PatternTree → PatternReader PatternTree
  | 0, _, _ => failure
  | fuel + 1, items, done => do
    skip
    match ← rest with
    | [] => return .ofBranches (.ofItems items :: done)
    | ')' :: _ => return .ofBranches (.ofItems items :: done)
    | '|' :: _ =>
      advance
      branches fuel [] (.ofItems items :: done)
    | '(' :: _ =>
      let item ← group fuel
      branches fuel (item :: items) done
    | '[' :: _ =>
      let (negated, inside) ← classBrackets (2 * (← rest).length)
      branches fuel (.bracketed negated inside :: items) done
    | '?' :: _ =>
      advance
      lazyMark
      branches fuel (← repeatLast 0 (some 1) items) done
    | '*' :: _ =>
      advance
      lazyMark
      branches fuel (← repeatLast 0 none items) done
    | '+' :: _ =>
      advance
      lazyMark
      branches fuel (← repeatLast 1 none items) done
    | '{' :: _ =>
      let (least, most) ← countBounds
      lazyMark
      branches fuel (← repeatLast least most items) done
    | _ =>
      let item : PatternTree := match ← primitive with
        | .atom a => .atom a
        | .dot => .dot
        | .assertion a => .assertion a
      branches fuel (item :: items) done

/-- Reads a group or a change of switches, at its opening parenthesis. -/
def group : Nat → PatternReader PatternTree
  | 0 => failure
  | fuel + 1 => do
    advanceSkip
    guard !isLookAround (← rest)
    if ← take? "?P<" then
      groupName
      groupBody fuel []
    else if ← take? "?<" then
      groupName
      groupBody fuel []
    else if ← take? "?" then
      let (change, last) ← flagChange (← rest).length true false []
      if last = ')' then
        guard !change.isEmpty
        modify fun s => { s with verbose := change.apply .verbose s.verbose }
        return .flags change
      else groupBody fuel change
    else groupBody fuel []

def groupBody : Nat → FlagChange → PatternReader PatternTree
  | 0, _ => failure
  | fuel + 1, change => do
    let before := (← get).verbose
    modify fun s => { s with verbose := change.apply .verbose before }
    let body ← branches fuel [] []
    guard ((← peek) == ')')
    modify fun s => { s with verbose := before }
    advance
    return .group change body

end

end PatternReader

def patternDepth : Nat :=
  250

def PatternTree.ofText? (text : List Char) : Option PatternTree := do
  let (tree, after) ← (PatternReader.branches (3 * text.length + 3) [] []).run ⟨text, false, []⟩
  if after.text.isEmpty && tree.depth ≤ patternDepth then return tree else failure

end WidgetLocator
