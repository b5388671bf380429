import WidgetLocator.Pattern.Machine
import WidgetLocator.Pattern.Reader

namespace WidgetLocator

/-- Compiles a well-formed pattern: the number of its first instruction, and its program. -/
def compilePattern? (text : String) : Option (Nat × Program) := do
  let tree ← PatternTree.ofText? text.toList
  let (meaning, _) ← tree.meaning .initial
  guard (meaning.cost ≤ patternSizeLimit)
  return meaning.body.compile 0 #[.done]

/-- A regular expression over characters, with the program that looks for it. -/
structure Pattern where
  text : String
  program : Program
  start : Nat
  compiled : compilePattern? text = some (start, program)
deriving Repr

def Pattern.ofText? (text : String) : Option Pattern :=
  match compiled : compilePattern? text with
  | some (start, program) => some ⟨text, program, start, compiled⟩
  | none => none

/-- Whether the pattern occurs in a text. -/
def Pattern.occursIn (pattern : Pattern) (text : String) : Bool :=
  pattern.program.run pattern.start none [] text.toList

end WidgetLocator
