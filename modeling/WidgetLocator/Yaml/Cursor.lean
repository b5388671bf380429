import WidgetLocator.Text

namespace WidgetLocator

/-- A place in a text: what is left from there, and where that is. -/
structure Cursor where
  rest : List Char
  line : Nat
  column : Nat
  index : Nat
deriving Repr, Inhabited

def isYamlBreak (c : Char) : Bool :=
  c == '\r' || c == '\n' || c.toNat == 0x85 || c.toNat == 0x2028 || c.toNat == 0x2029

def isYamlBlank (c : Char) : Bool :=
  c == ' ' || c == '\t'

/-- A character of names: letters, digits, underscore and hyphen. -/
def isYamlNameChar (c : Char) : Bool :=
  isAsciiLetter c || isAsciiDigit c || c == '_' || c == '-'

/-- The characters that a YAML text may hold. -/
def isYamlChar (c : Char) : Bool :=
  let n := c.toNat
  n == 9 || n == 10 || n == 13 || (0x20 ≤ n && n ≤ 0x7E) || n == 0x85 ||
    (0xA0 ≤ n && n ≤ 0xFFFD) || 0x10000 ≤ n

namespace Cursor

def start (text : List Char) : Cursor :=
  ⟨text, 0, 0, 0⟩

def peek? (s : Cursor) : Option Char :=
  s.rest.head?

def peekAt? (s : Cursor) (n : Nat) : Option Char :=
  (s.rest.drop n).head?

def atEnd (s : Cursor) : Bool :=
  s.rest.isEmpty

def isAt (s : Cursor) (c : Char) : Bool :=
  s.peek? == some c

def atBreak (s : Cursor) : Bool :=
  s.peek?.any isYamlBreak

def atBlank (s : Cursor) : Bool :=
  s.peek?.any isYamlBlank

def atBreakOrEnd (s : Cursor) : Bool :=
  s.peek?.all isYamlBreak

/-- Whether the text has a blank, a break or its end `n` characters on. -/
def isGapAt (s : Cursor) (n : Nat) : Bool :=
  (s.peekAt? n).all fun c => isYamlBlank c || isYamlBreak c

/-- Goes some characters on, within a line. -/
def skip (s : Cursor) (n : Nat) : Cursor :=
  ⟨s.rest.drop n, s.line, s.column + n, s.index + n⟩

def skipBreak (s : Cursor) : Cursor :=
  match s.rest with
  | '\r' :: '\n' :: rest => ⟨rest, s.line + 1, 0, s.index + 2⟩
  | c :: rest => if isYamlBreak c then ⟨rest, s.line + 1, 0, s.index + 1⟩ else s
  | [] => s

/-- The break at a place as content: the line and paragraph separators stay, all others are line
feeds. -/
def breakContent (s : Cursor) : List Char :=
  match s.rest with
  | c :: _ =>
    if c.toNat == 0x2028 || c.toNat == 0x2029 then [c] else if isYamlBreak c then ['\n'] else []
  | [] => []

/-- Goes over characters as long as they are accepted, none of them a break. -/
def skipWhile (s : Cursor) (accepts : Char → Bool) : Cursor :=
  s.skip (s.rest.takeWhile accepts).length

def skipBlanks (s : Cursor) : Cursor :=
  s.skipWhile isYamlBlank

/-- Goes over a comment, if one starts here. -/
def skipComment (s : Cursor) : Cursor :=
  if s.isAt '#' then s.skipWhile fun c => !isYamlBreak c else s

/-- Whether three equal characters stand alone at the start of a line. -/
def isMarker (s : Cursor) (c : Char) : Bool :=
  s.column == 0 && [c, c, c].isPrefixOf s.rest && s.isGapAt 3

/-- Whether a document starts or ends here with a marker. -/
def atDocumentMarker (s : Cursor) : Bool :=
  s.isMarker '-' || s.isMarker '.'

end Cursor

end WidgetLocator
