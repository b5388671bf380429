import WidgetLocator.Report

namespace WidgetLocator

/-- How much is told about a search. -/
inductive Verbosity where
  | quiet
  | normal
  | verbose
  | debug
deriving DecidableEq, Repr, Inhabited

namespace Verbosity

def ofFlags (quiet : Bool) (verbose : Nat) : Verbosity :=
  if quiet then .quiet
  else if verbose = 0 then .normal
  else if verbose = 1 then .verbose
  else .debug

def isQuiet (verbosity : Verbosity) : Bool :=
  verbosity = quiet

def isVerbose (verbosity : Verbosity) : Bool :=
  verbosity = verbose || verbosity = debug

def name : Verbosity → String
  | quiet => "Quiet"
  | normal => "Normal"
  | verbose => "Verbose"
  | debug => "Debug"

/-- The least level of the messages that are told. -/
def filter : Verbosity → String
  | quiet => "error"
  | normal => "warn"
  | verbose => "info"
  | debug => "debug"

end Verbosity

inductive ColorChoice where
  | auto
  | always
  | never
deriving DecidableEq, Repr, Inhabited

/-- Whether colours are used, given whether the output is a terminal. -/
def ColorChoice.useColor (choice : ColorChoice) (terminal : Bool) : Bool :=
  match choice with
  | auto => terminal
  | always => true
  | never => false

/-- Why arguments cannot be used, or what they ask for instead. -/
inductive UsageError where
  | help
  | version
  | nothingGiven
  | noCommand
  | missingArgument
  | invalidValue
  | unknownCommand
  | unknownArgument
  | unneededValue
  | repeated
deriving DecidableEq, Repr, Inhabited

def UsageError.name : UsageError → String
  | help => "DisplayHelp"
  | version => "DisplayVersion"
  | nothingGiven => "DisplayHelpOnMissingArgumentOrSubcommand"
  | noCommand => "MissingSubcommand"
  | missingArgument => "MissingRequiredArgument"
  | invalidValue => "InvalidValue"
  | unknownCommand => "InvalidSubcommand"
  | unknownArgument => "UnknownArgument"
  | unneededValue => "TooManyValues"
  | repeated => "ArgumentConflict"

inductive Task where
  | locate (snapshot locator : String)
  | enabled (snapshot locator : String)
  | parse (path : String)
deriving DecidableEq, Repr, Inhabited

structure Arguments where
  verbose : Nat
  quiet : Bool
  color : ColorChoice
  format : OutputFormat
  /-- The path of the file with the settings. -/
  configuration : Option String
  task : Task
deriving DecidableEq, Repr, Inhabited

inductive CommandName where
  | locate
  | enabled
  | parse
deriving DecidableEq, Repr, Inhabited

def CommandName.ofText? : String → Option CommandName
  | "locate" => some locate
  | "enabled" => some enabled
  | "parse" => some parse
  | _ => none

/-- What an argument of its own is for: a path must not be empty. -/
inductive Operand where
  | path
  | text
deriving DecidableEq, Repr, Inhabited

def CommandName.operands : CommandName → List Operand
  | locate => [.path, .text]
  | enabled => [.path, .text]
  | parse => [.text]

inductive ValueOption where
  | color
  | format
  | configuration
deriving DecidableEq, Repr, Inhabited

inductive Flag where
  | verbose
  | quiet
  | help
  | version
deriving DecidableEq, Repr, Inhabited

def longOption? : String → Option (Flag ⊕ ValueOption)
  | "verbose" => some (.inl .verbose)
  | "quiet" => some (.inl .quiet)
  | "help" => some (.inl .help)
  | "version" => some (.inl .version)
  | "color" => some (.inr .color)
  | "format" => some (.inr .format)
  | "config" => some (.inr .configuration)
  | _ => none

def shortFlag? : Char → Option Flag
  | 'v' => some .verbose
  | 'q' => some .quiet
  | 'h' => some .help
  | 'V' => some .version
  | _ => none

/-- The options before a command or after it. -/
structure OptionValues where
  verbose : Option Nat
  quiet : Bool
  color : Option ColorChoice
  format : Option OutputFormat
  configuration : Option String
deriving DecidableEq, Repr, Inhabited

namespace OptionValues

def empty : OptionValues :=
  ⟨none, false, none, none, none⟩

def isEmpty (values : OptionValues) : Bool :=
  values = empty

/-- Sets an option. It must not be set twice, and its value must be a good one. -/
def set (values : OptionValues) (option : ValueOption) (value : String) :
    Except UsageError OptionValues :=
  match option with
  | .color =>
    if values.color.isSome then .error .repeated
    else
      match value with
      | "auto" => .ok { values with color := some .auto }
      | "always" => .ok { values with color := some .always }
      | "never" => .ok { values with color := some .never }
      | _ => .error .invalidValue
  | .format =>
    if values.format.isSome then .error .repeated
    else
      match value with
      | "text" => .ok { values with format := some .text }
      | "json" => .ok { values with format := some .json }
      | _ => .error .invalidValue
  | .configuration =>
    if values.configuration.isSome then .error .repeated
    else if value.isEmpty then .error .invalidValue
    else .ok { values with configuration := some value }

/-- Counts or sets a flag. The count stays below 256. -/
def raise (values : OptionValues) : Flag → Except UsageError OptionValues
  | .verbose => .ok { values with verbose := some (min (values.verbose.getD 0 + 1) 255) }
  | .quiet => if values.quiet then .error .repeated else .ok { values with quiet := true }
  | .help => .error .help
  | .version => .error .version

/-- Options before a command, and those after it, which count more. -/
def override (outer inner : OptionValues) : OptionValues where
  verbose := inner.verbose <|> outer.verbose
  quiet := inner.quiet || outer.quiet
  color := inner.color <|> outer.color
  format := inner.format <|> outer.format
  configuration := inner.configuration <|> outer.configuration

end OptionValues

/-- What has been taken but not judged yet. A value that stands apart from its option, and a path
that stands for itself, are judged only when the next argument is taken or the arguments end. -/
inductive Pending where
  | nothing
  | option (option : ValueOption) (value : Option String)
  | operand (operand : Operand) (value : String)
deriving DecidableEq, Repr, Inhabited

/-- The arguments so far before a command, or after it. -/
structure ArgumentScan where
  values : OptionValues
  operands : List String
  pending : Pending
deriving DecidableEq, Repr, Inhabited

namespace ArgumentScan

def empty : ArgumentScan :=
  ⟨.empty, [], .nothing⟩

def settle (scan : ArgumentScan) : Except UsageError ArgumentScan :=
  match scan.pending with
  | .nothing => .ok scan
  | .option _ none => .error .invalidValue
  | .option option (some value) =>
    (scan.values.set option value).map fun values => { scan with values, pending := .nothing }
  | .operand .path value =>
    if value.isEmpty then .error .invalidValue else .ok { scan with pending := .nothing }
  | .operand .text _ => .ok { scan with pending := .nothing }

/-- The option that waits for its value. -/
def waiting? (scan : ArgumentScan) : Option ValueOption :=
  match scan.pending with
  | .option option none => some option
  | _ => none

def raise (scan : ArgumentScan) (flag : Flag) : Except UsageError ArgumentScan := do
  let scan ← scan.settle
  let values ← scan.values.raise flag
  return { scan with values }

/-- Takes an option with a long name, and a value after an equals sign. -/
def takeLong (scan : ArgumentScan) (body : List Char) : Except UsageError ArgumentScan :=
  let (name, value) := match splitAtFirst '=' body with
    | some (name, value) => (name, some (String.ofList value))
    | none => (body, none)
  match longOption? (String.ofList name), value with
  | none, _ => .error .unknownArgument
  | some (.inl flag), none => scan.raise flag
  | some (.inl _), some _ => .error .unneededValue
  | some (.inr option), none =>
    scan.settle.map fun scan => { scan with pending := .option option none }
  | some (.inr option), some value => do
    let scan ← scan.settle
    let values ← scan.values.set option value
    return { scan with values }

def takeShort (scan : ArgumentScan) : List Char → Except UsageError ArgumentScan
  | [] => .ok scan
  | c :: cs =>
    match shortFlag? c with
    | some flag => do
      let scan ← scan.raise flag
      takeShort scan cs
    | none => .error .unknownArgument

/-- Takes an operand, if one is still missing. -/
def takeOperand (scan : ArgumentScan) (operands : List Operand) (argument : String) :
    Except UsageError ArgumentScan :=
  match operands[scan.operands.length]? with
  | some operand =>
    scan.settle.map fun scan =>
      { scan with operands := scan.operands ++ [argument], pending := .operand operand argument }
  | none => .error .unknownArgument

/-- Takes what looks like an option, or fills the option that waits for a value. -/
def takeOption? (scan : ArgumentScan) (argument : String) :
    Option (Except UsageError ArgumentScan) :=
  match argument.toList with
  | '-' :: '-' :: body => some (scan.takeLong body)
  | '-' :: c :: cs => some (scan.takeShort (c :: cs))
  | _ =>
    scan.waiting?.map fun option => .ok { scan with pending := .option option (some argument) }

/-- Takes the arguments after a command. After a double hyphen all are operands. -/
def takeOperands (operands : List Operand) :
    Bool → ArgumentScan → List String → Except UsageError ArgumentScan
  | _, scan, [] => .ok scan
  | trailing, scan, argument :: arguments =>
    if trailing then do
      let scan ← scan.takeOperand operands argument
      takeOperands operands trailing scan arguments
    else if argument = "--" then takeOperands operands true scan arguments
    else do
      let scan ← (scan.takeOption? argument).getD (scan.takeOperand operands argument)
      takeOperands operands trailing scan arguments

/-- Takes the arguments up to a command, which comes back with the ones after it. -/
def takeGlobals : Bool → ArgumentScan → List String →
    Except UsageError (ArgumentScan × Option (CommandName × List String))
  | _, scan, [] => .ok (scan, none)
  | true, _, argument :: _ =>
    if (CommandName.ofText? argument).isSome || argument == "help" then .error .unknownArgument
    else .error .unknownCommand
  | false, scan, argument :: arguments =>
    if argument = "--" then takeGlobals true scan arguments
    else
      match scan.takeOption? argument with
      | some taken => do
        let scan ← taken
        takeGlobals false scan arguments
      | none =>
        match CommandName.ofText? argument, arguments with
        | some name, _ => .ok (scan, some (name, arguments))
        | none, [] => .error (if argument = "help" then .help else .unknownCommand)
        | none, [topic] =>
          .error (if argument = "help" ∧ ((CommandName.ofText? topic).isSome ∨ topic = "help") then
            .help else .unknownCommand)
        | none, _ => .error .unknownCommand

end ArgumentScan

def readTask (name : CommandName) (arguments : List String) :
    Except UsageError (OptionValues × Task) := do
  let scan ← ArgumentScan.takeOperands name.operands false .empty arguments
  let scan ← scan.settle
  match name, scan.operands with
  | .locate, [snapshot, locator] => return (scan.values, .locate snapshot locator)
  | .enabled, [snapshot, locator] => return (scan.values, .enabled snapshot locator)
  | .parse, [path] => return (scan.values, .parse path)
  | _, _ => throw .missingArgument

def Arguments.parse (arguments : List String) : Except UsageError Arguments := do
  let (scan, command) ← ArgumentScan.takeGlobals false .empty arguments
  match command with
  | some (name, rest) =>
    let (inner, task) ← readTask name rest
    let scan ← scan.settle
    let values := scan.values.override inner
    return {
      verbose := values.verbose.getD 0
      quiet := values.quiet
      color := values.color.getD .auto
      format := values.format.getD .text
      configuration := values.configuration
      task }
  | none =>
    let scan ← scan.settle
    throw (if scan.values.isEmpty then .nothingGiven else .noCommand)

end WidgetLocator
