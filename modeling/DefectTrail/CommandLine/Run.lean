import DefectTrail.Collection
import DefectTrail.CommandLine.Arguments
import DefectTrail.Config.Source

/-!
# Running a command line

`run` answers a command line on a file tree. A command that fails prints nothing, and its exit code is 1; what was
logged before the failure stays. The paths of `annotate` are seen from the working directory and annotated in the
order given.
-/

namespace DefectTrail.CommandLine

/-- What a command did: the text it printed or the message it failed with, and the records it logged. -/
structure Completion where
  printed : Except String String
  log : List LogRecord

namespace Completion

/-- The text on standard output. -/
def stdout (c : Completion) : String :=
  match c.printed with
  | .ok text => text
  | .error _ => ""

/-- The message that the command failed with. -/
def failure? (c : Completion) : Option String :=
  match c.printed with
  | .ok _ => none
  | .error message => some message

/-- The exit code: 0 for a success, 1 for a failure. -/
def exitCode (c : Completion) : Nat := if c.failure?.isSome then 1 else 0

/-- The completion with the records that a threshold lets through. -/
def shownAt (threshold : LogLevel) (c : Completion) : Completion := ⟨c.printed, LogRecord.shownAt threshold c.log⟩

end Completion

/-! ## Annotate -/

namespace AnnotateCommand

/-- Annotates the paths one after the other. -/
def reports (c : AnnotateCommand) (disk : Disk) (settings : Settings) : Journal (List AnnotatedReport) :=
  Journal.collect (fun path : String => disk.annotatePath settings (Path.resolve disk.workingDirectory path)) c.paths

/-- The record that tells where the settings come from. -/
def sourceRecords (settings : Settings) : List LogRecord :=
  settings.source.toList.map fun path => ⟨.info, "Using config: " ++ path.text⟩

/-- The record that closes a run. -/
def totalRecord (reports : List AnnotatedReport) : LogRecord :=
  let mismatches := (reports.flatMap (·.mismatches)).length
  ⟨.info, "annotated " ++ toString reports.length ++ " report(s), " ++ toString mismatches
    ++ " stack mismatch(es)"⟩

/-- The text that goes to standard output; JSON gets a line break at its end. -/
def output (c : AnnotateCommand) (settings : Settings) (reports : List AnnotatedReport) : String :=
  let text := c.format.render reports settings.indentWidth
  if c.format = .json then text ++ "\n" else text

/-- What a run says that has no settings. -/
def noSettings : String := "failed to load configuration"

/-- Loads the settings, annotates all paths, and prints the reports if nothing failed. -/
def run [Glob.Compiler] (c : AnnotateCommand) (disk : Disk) : Completion :=
  match Settings.load disk disk.workingDirectory c.config c.overrides with
  | .error _ => ⟨.error noSettings, []⟩
  | .ok settings =>
    let journal := c.reports disk settings
    let log := sourceRecords settings ++ journal.log
    match journal.result with
    | .error failure => ⟨.error failure.headline, log⟩
    | .ok reports => ⟨.ok (c.output settings reports), log ++ [totalRecord reports]⟩

end AnnotateCommand

/-! ## Config -/

/-- What `config validate` says about valid settings. -/
def validationText (settings : Settings) : String :=
  match settings.source with
  | some path => "Config valid: " ++ path.text ++ "\n"
  | none => "No config file found, using defaults\n"

/-- What `config show` says. -/
def settingsText (settings : Settings) : String :=
  String.join ([
    "Config file: " ++ (settings.source.map Path.text).getD "(defaults)",
    "Palette: " ++ ", ".intercalate settings.palette.colors,
    "Fix-it marker: " ++ Text.quoted settings.fixitMarker,
    "Strict allocation returns: " ++ toString settings.strictAllocationReturns,
    "Indent width: " ++ toString settings.indentWidth,
    "Exclude patterns: " ++ if settings.exclude.isEmpty then "(none)" else "custom"].map (· ++ "\n"))

/-- Prints a text about the settings that a configuration file gives. -/
def runConfig [Glob.Compiler] (text : Settings → String) (path : Option String) (disk : Disk) : Completion :=
  match Settings.load disk disk.workingDirectory path .none with
  | .error failure => ⟨.error failure.headline, []⟩
  | .ok settings => ⟨.ok (text settings), []⟩

/-! ## Command lines -/

/-- Runs a command, with all that it logs. -/
def Command.run [Glob.Compiler] (disk : Disk) : Command → Completion
  | .annotate c => c.run disk
  | .validateConfig path => runConfig validationText path disk
  | .showConfig path => runConfig settingsText path disk

/-- Runs a command and shows what its verbosity lets through. -/
def Invocation.run [Glob.Compiler] (i : Invocation) (disk : Disk) : Completion :=
  (i.command.run disk).shownAt i.verbosity.threshold

/-- The answer to a command line. -/
inductive Outcome where
  /-- The command line is not understood. -/
  | usage
  | completed (completion : Completion)

/-- The exit code; a command line that is not understood has one of its own. -/
def Outcome.exitCode : Outcome → Nat
  | usage => 2
  | completed c => c.exitCode

/-- Answers a command line on a file tree. -/
def run [Glob.Compiler] (disk : Disk) (args : List String) : Outcome :=
  match Invocation.parse? args with
  | none => .usage
  | some invocation => .completed (invocation.run disk)

end DefectTrail.CommandLine
