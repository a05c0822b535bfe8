import DefectTrail.Config
import DefectTrail.Log
import DefectTrail.Rendering

/-!
# Command-line arguments

The words of a command line are read on up to three levels: the program's own, the command's, and for `config` the
action's. Each level knows its switches and settings; `-v` and `--quiet` are known on all of them. `Invocation.parse?`
gives nothing for a command line that is not understood.
-/

namespace DefectTrail.CommandLine

/-- An option without a value. -/
inductive Switch where
  | verbose
  | quiet
  | strictAllocationReturns
  deriving DecidableEq, Repr

/-- An option with a value. -/
inductive Setting where
  | format
  | config
  | palette
  | fixitMarker
  | indentWidth
  | path
  deriving DecidableEq, Repr

def Switch.name : Switch → String
  | verbose => "verbose"
  | quiet => "quiet"
  | strictAllocationReturns => "strict-allocation-returns"

def Setting.name : Setting → String
  | format => "format"
  | config => "config"
  | palette => "palette"
  | fixitMarker => "fixit-marker"
  | indentWidth => "indent-width"
  | path => "path"

/-- The options known on a level, and whether its first plain word opens the next level. -/
structure Level where
  switches : List Switch
  settings : List Setting
  opensNext : Bool

namespace Level

/-- A level whose first plain word names what follows. -/
def branching : Level := ⟨[.verbose, .quiet], [], true⟩

def annotate : Level :=
  ⟨[.verbose, .quiet, .strictAllocationReturns], [.format, .config, .palette, .fixitMarker, .indentWidth], false⟩

def action : Level := ⟨[.verbose, .quiet], [.path], false⟩

end Level

/-- What is found on one level: options and plain words, in order. -/
inductive Item where
  | switch (s : Switch)
  | setting (s : Setting) (value : String)
  | word (w : String)
  deriving DecidableEq, Repr

/-! ## Splitting the arguments -/

/-- Whether an argument is an option, or the mark that ends the options; a single dash is a plain word. -/
def isOption (arg : String) : Bool := arg.toList.head? = some '-' && arg ≠ "-"

/-- The items of a bundle of one-letter switches. -/
def shortItems? (letters : List Char) : Option (List Item) :=
  letters.mapM fun c => if c = 'v' then some (.switch .verbose) else none

/-- A long option's name and the value attached to it. -/
def splitLong (body : List Char) : String × Option String :=
  match body.span (· ≠ '=') with
  | (name, _ :: value) => (String.ofList name, some (String.ofList value))
  | (name, []) => (String.ofList name, none)

/-- The items of the arguments on a level, and the arguments after the word that opens the next level. -/
def split? (level : Level) : List String → Option (List Item × List String)
  | [] => some ([], [])
  | arg :: args =>
    match arg.toList with
    | ['-', '-'] => if level.opensNext then none else some (args.map .word, [])
    | '-' :: '-' :: body =>
      let (name, attached) := splitLong body
      match level.switches.find? (·.name = name), level.settings.find? (·.name = name) with
      | some s, _ =>
        if attached.isSome then none
        else (split? level args).map fun (items, rest) => (.switch s :: items, rest)
      | none, some s =>
        match attached, args with
        | some value, args => (split? level args).map fun (items, rest) => (.setting s value :: items, rest)
        | none, value :: args =>
          if isOption value then none
          else (split? level args).map fun (items, rest) => (.setting s value :: items, rest)
        | none, [] => none
      | none, none => none
    | '-' :: letter :: letters => do
      let switches ← shortItems? (letter :: letters)
      let (items, rest) ← split? level args
      return (switches ++ items, rest)
    | _ =>
      if level.opensNext then some ([.word arg], args)
      else (split? level args).map fun (items, rest) => (.word arg :: items, rest)

/-! ## The items of a level -/

/-- How often a switch is given. -/
def countSwitch (s : Switch) (items : List Item) : Nat := items.count (.switch s)

/-- The values of a setting, in order. -/
def values (s : Setting) (items : List Item) : List String :=
  items.filterMap fun
    | .setting s' value => if s' = s then some value else none
    | _ => none

/-- The value of a setting that may be given once. -/
def value? (s : Setting) (items : List Item) : Option (Option String) :=
  match values s items with
  | [] => some none
  | [v] => some (some v)
  | _ => none

/-- The plain words, in order. -/
def words (items : List Item) : List String :=
  items.filterMap fun
    | .word w => some w
    | _ => none

/-- The switches that say how much is logged, as given on one level. -/
structure Verbosity where
  verbose : Nat
  quiet : Bool
  deriving DecidableEq, Repr

/-- A level's own verbosity; `--quiet` may be given once. -/
def verbosity? (items : List Item) : Option Verbosity :=
  match countSwitch .quiet items with
  | 0 => some ⟨countSwitch .verbose items, false⟩
  | 1 => some ⟨countSwitch .verbose items, true⟩
  | _ => none

/-- The verbosity of a level together with that of the level it opens: the inner `-v` counts if there is one. -/
def Verbosity.within (outer inner : Verbosity) : Verbosity :=
  ⟨if inner.verbose = 0 then outer.verbose else inner.verbose, outer.quiet || inner.quiet⟩

def Verbosity.threshold (v : Verbosity) : LogLevel :=
  if v.quiet then .error
  else
    match v.verbose with
    | 0 => .warn
    | 1 => .info
    | _ => .debug

/-! ## Values -/

/-- A path is not empty. -/
def pathValue? (value : String) : Option String := if value = "" then none else some value

/-- A number that a 64-bit word holds; a plus sign may precede its digits. -/
def wordValue? (value : String) : Option Nat :=
  let digits : List Char := match value.toList with
    | '+' :: ds => ds
    | ds => ds
  let number : Nat := digits.foldl (fun n c => 10 * n + (c.toNat - '0'.toNat)) 0
  if digits ≠ [] ∧ digits.all Char.isDigit ∧ number < UInt64.size then some number else none

/-- The pieces between commas; they may be empty. -/
def listValue (value : String) : List String := (value.toList.splitOn ',').map String.ofList

/-- The value of a setting read by `read?`, if the setting is given. -/
def given? {α : Type} (read? : String → Option α) : Option String → Option (Option α)
  | none => some none
  | some value => (read? value).map some

/-! ## Commands -/

structure AnnotateCommand where
  paths : List String
  format : Format
  config : Option String
  overrides : Overrides
  deriving DecidableEq, Repr

inductive Command where
  | annotate (command : AnnotateCommand)
  | validateConfig (path : Option String)
  | showConfig (path : Option String)
  deriving DecidableEq, Repr

def AnnotateCommand.ofItems? (items : List Item) : Option AnnotateCommand := do
  let paths ← (words items).mapM pathValue?
  if paths = [] then none
  let format ← given? Format.ofName? (← value? .format items)
  let config ← given? pathValue? (← value? .config items)
  let fixitMarker ← value? .fixitMarker items
  let indentWidth ← given? wordValue? (← value? .indentWidth items)
  let strict := countSwitch .strictAllocationReturns items
  if 1 < strict then none
  let palette := match values .palette items with
    | [] => none
    | given => some (given.flatMap listValue)
  return ⟨paths, format.getD .text, config, ⟨palette, fixitMarker, strict == 1, indentWidth⟩⟩

/-- The path that an action of `config` is given; it takes no words. -/
def actionPath? (items : List Item) : Option (Option String) := do
  if words items ≠ [] then none
  given? pathValue? (← value? .path items)

structure Invocation where
  verbosity : Verbosity
  command : Command
  deriving DecidableEq, Repr

namespace Invocation

def parseAnnotate? (outer : Verbosity) (args : List String) : Option Invocation := do
  let (items, _) ← split? .annotate args
  return ⟨outer.within (← verbosity? items), .annotate (← AnnotateCommand.ofItems? items)⟩

def parseAction? (outer : Verbosity) (command : Option String → Command) (args : List String) :
    Option Invocation := do
  let (items, _) ← split? .action args
  return ⟨outer.within (← verbosity? items), command (← actionPath? items)⟩

def parseConfig? (outer : Verbosity) (args : List String) : Option Invocation := do
  let (items, rest) ← split? .branching args
  let v := outer.within (← verbosity? items)
  match words items with
  | ["validate"] => parseAction? v .validateConfig rest
  | ["show"] => parseAction? v .showConfig rest
  | _ => none

def parse? (args : List String) : Option Invocation := do
  let (items, rest) ← split? .branching args
  let v ← verbosity? items
  match words items with
  | ["annotate"] => parseAnnotate? v rest
  | ["config"] => parseConfig? v rest
  | _ => none

end Invocation

end DefectTrail.CommandLine
