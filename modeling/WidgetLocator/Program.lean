import WidgetLocator.Arguments
import WidgetLocator.Snapshot.Report
import WidgetLocator.Source.File

namespace WidgetLocator

/-- Why settings cannot be used. -/
inductive ConfigurationFault where
  | unloadable (path : String) (cause : Error)
  | stated (message : String)
deriving DecidableEq, Repr, Inhabited

def ConfigurationFault.message : ConfigurationFault → String
  | .unloadable path cause => "cannot load " ++ path ++ ": " ++ cause.message
  | .stated message => message

/-- Why the program fails. -/
inductive ProgramError where
  | configuration (fault : ConfigurationFault)
  | badArgument (message : String)
  | library (error : Error)
deriving DecidableEq, Repr, Inhabited

def ProgramError.message : ProgramError → String
  | .configuration fault => "Configuration error: " ++ fault.message
  | .badArgument message => "Invalid argument: " ++ message
  | .library error => error.message

/-- What the program leaves behind. It ends with 0 for a match or an enabled widget, with 2 for
arguments that it cannot use, and with 1 otherwise. -/
structure Outcome where
  exit : UInt32
  output : String
  complaint : Option String
deriving DecidableEq, Repr, Inhabited

namespace Outcome

/-- A printed text, and whether it says yes. -/
def answer (yes : Bool) (text : String) : Outcome :=
  ⟨if yes then 0 else 1, text ++ "\n", none⟩

def failure (error : ProgramError) : Outcome :=
  ⟨1, "", some ("Error: " ++ error.message)⟩

end Outcome

/-- Reads settings from a file. -/
def loadConfiguration (files : FileTexts) (path : String) : Except ProgramError Configuration :=
  match Configuration.reader.ofFile files path with
  | .ok configuration => .ok configuration
  | .error cause => .error (.configuration (.unloadable path cause))

/-- Reads a snapshot from a file. -/
def Snapshot.load (files : FileTexts) (path : String) : Except Error Snapshot := do
  Snapshot.ofDocument (← SnapshotDocument.reader.ofFile files path)

namespace Arguments

/-- The paths of the files that are read. -/
def paths (arguments : Arguments) : List String :=
  arguments.configuration.toList ++
    match arguments.task with
    | .locate snapshot _ => [snapshot]
    | .enabled snapshot _ => [snapshot]
    | .parse _ => []

variable (arguments : Arguments)

def reporter (terminal : Bool) : Reporter :=
  ⟨arguments.format, arguments.color.useColor terminal, terminal⟩

/-- The settings: those from the file, if there is one. -/
def settings (files : FileTexts) : Except ProgramError Configuration :=
  match arguments.configuration with
  | some path => loadConfiguration files path
  | none => .ok .standard

/-- Does what is asked for. -/
def perform (files : FileTexts) (configuration : Configuration) (reporter : Reporter) :
    Task → Except Error Outcome
  | .locate path locator => do
    let snapshot ← Snapshot.load files path
    let report ← snapshot.locateReport configuration locator
    return .answer report.matched (reporter.showLocate report)
  | .enabled path locator => do
    let snapshot ← Snapshot.load files path
    let report ← snapshot.enabledReport configuration locator
    return .answer report.enabled (reporter.showEnabled report)
  | .parse path => do
    let path ← Path.parse path
    return .answer true (reporter.showSteps path.report)

def run (files : FileTexts) (terminal : Bool) : Outcome :=
  match arguments.settings files with
  | .error e => .failure e
  | .ok configuration =>
    match perform files configuration (arguments.reporter terminal) arguments.task with
    | .ok outcome => outcome
    | .error e => .failure (.library e)

end Arguments

def programName : String :=
  "qxprobe"

/-- How the program is used. -/
def usageText : String :=
  "Qxprobe: evaluate qooxdoo widget locators against widget-tree snapshots\n\n" ++
  "Usage: " ++ programName ++ " [OPTIONS] <COMMAND>\n\n" ++
  "Commands:\n" ++
  "  locate   Find the element a locator designates in a snapshot\n" ++
  "  enabled  Report whether the widget a `qx` locator designates is enabled\n" ++
  "  parse    Parse a hierarchy path and print its classified steps\n" ++
  "  help     Print this message or the help of the given subcommand(s)\n\n" ++
  "Options:\n" ++
  "  -v, --verbose...       Verbosity level (-v, -vv)\n" ++
  "  -q, --quiet            Quiet mode (suppress non-error output)\n" ++
  "      --color <COLOR>    Color output (auto, always, never) [default: auto]\n" ++
  "      --format <FORMAT>  Result format [default: text]\n" ++
  "      --config <CONFIG>  Locator settings file (YAML or JSON)\n" ++
  "  -h, --help             Print help\n" ++
  "  -V, --version          Print version\n"

def versionText : String :=
  programName ++ " 0.4.0\n"

/-- What is said about arguments that cannot be used or ask for no task. -/
def UsageError.outcome : UsageError → Outcome
  | help => ⟨0, usageText, none⟩
  | version => ⟨0, versionText, none⟩
  | nothingGiven => ⟨2, "", some usageText⟩
  | error => ⟨2, "", some ("error: " ++ error.name ++ "\n\n" ++ usageText)⟩

end WidgetLocator
