import WidgetLocator.Pattern.Meaning

namespace WidgetLocator

/-- An instruction, with the numbers of those that can follow it. -/
inductive Instruction where
  | set (chars : CharSet) (next : Nat)
  | place (place : Place) (next : Nat)
  | split (first second : Nat)
  | done
deriving Repr, Inhabited

abbrev Program := Array Instruction

/-- Adds the instructions of a body before an instruction, and gives the number of the first. -/
def PatternBody.compile (next : Nat) (program : Program) : PatternBody → Nat × Program
  | .nothing => (next, program)
  | .set chars => (program.size, program.push (.set chars next))
  | .place p => (program.size, program.push (.place p next))
  | .sequence first second =>
    let (middle, program) := second.compile next program
    first.compile middle program
  | .choice first second =>
    let (a, program) := first.compile next program
    let (b, program) := second.compile next program
    (program.size, program.push (.split a b))
  | .optional body =>
    let (a, program) := body.compile next program
    (program.size, program.push (.split a next))
  | .star body =>
    let loop := program.size
    let (a, program) := body.compile loop (program.push .done)
    (loop, program.set! loop (.split a next))

/-- The characters on the two sides of a place. -/
structure Surroundings where
  before : Option Char
  after : Option Char

def isAsciiWordChar (c : Char) : Bool :=
  isAsciiLetter c || isAsciiDigit c || c == '_'

def isWordChar (unicode : Bool) : Option Char → Bool
  | none => false
  | some c =>
    if c.toNat < 128 then isAsciiWordChar c else unicode && unicodeWordCharacters.contains c

/-- Whether a place fulfils a condition. -/
def Place.holds (around : Surroundings) : Place → Bool
  | .textStart => around.before.isNone
  | .textEnd => around.after.isNone
  | .lineStart => around.before.isNone || around.before == some '\n'
  | .lineEnd => around.after.isNone || around.after == some '\n'
  | .lineStartAfterReturn =>
    around.before.isNone || around.before == some '\n' ||
      (around.before == some '\r' && around.after != some '\n')
  | .lineEndBeforeReturn =>
    around.after.isNone || around.after == some '\r' ||
      (around.after == some '\n' && around.before != some '\r')
  | .boundary kind unicode =>
    let before := isWordChar unicode around.before
    let after := isWordChar unicode around.after
    match kind with
    | .either => before != after
    | .neither => before == after
    | .start => !before && after
    | .finish => before && !after
    | .startHalf => !before
    | .finishHalf => !after

/-- The states of a machine at a place: those that wait for a character, and whether the end was
reached. -/
structure MachineStates where
  seen : Array Bool
  waiting : List (CharSet × Nat)
  done : Bool

/-- Follows instructions that take no character, from a list of them. -/
def Program.follow (program : Program) (around : Surroundings) :
    Nat → List Nat → MachineStates → MachineStates
  | 0, _, states => states
  | _, [], states => states
  | fuel + 1, i :: rest, states =>
    if states.seen.getD i true then program.follow around fuel rest states
    else
      let states := { states with seen := states.seen.setIfInBounds i true }
      match program[i]? with
      | none => program.follow around fuel rest states
      | some .done => program.follow around fuel rest { states with done := true }
      | some (.set chars next) =>
        program.follow around fuel rest { states with waiting := (chars, next) :: states.waiting }
      | some (.place p next) =>
        if p.holds around then program.follow around fuel (next :: rest) states
        else program.follow around fuel rest states
      | some (.split a b) => program.follow around fuel (a :: b :: rest) states

/-- The states reached from some instructions. Each is followed once and leads to two others at
most. -/
def Program.states (program : Program) (around : Surroundings) (starts : List Nat) :
    MachineStates :=
  program.follow around (starts.length + 2 * program.size + 1) starts
    ⟨.replicate program.size false, [], false⟩

/-- Runs a program on the rest of a text, starting anew at each place. It takes one step for each
character, whatever the pattern repeats. -/
def Program.run (program : Program) (start : Nat) (before : Option Char) (active : List Nat) :
    List Char → Bool
  | [] => (program.states ⟨before, none⟩ (start :: active)).done
  | c :: rest =>
    let states := program.states ⟨before, some c⟩ (start :: active)
    if states.done then true
    else
      let next := states.waiting.filterMap fun (chars, next) =>
        if chars.contains c then some next else none
      program.run start (some c) next rest

end WidgetLocator
