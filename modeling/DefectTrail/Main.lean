import DefectTrail.CommandLine.Run

/-!
# Command line

Takes a picture of the files that a command line reads, runs the command line on it, and writes what comes out. The
picture holds the named paths with all directories on the way to them, and no more of the file system.
-/

namespace DefectTrail.CommandLine

/-- The paths that a command reads, seen from a directory. -/
def Command.sources (directory : Path) : Command → List Path
  | .annotate c => configPaths c.config ++ c.paths.map fun path : String => Path.resolve directory path
  | .validateConfig path | .showConfig path => configPaths path
where
  configPaths : Option String → List Path
    | some path => [Path.resolve directory path]
    | none => Config.sourceNames.map (Path.join directory)

/-- The names on the way to a path, for each of its parts. -/
def waypoints (path : Path) : List (List Path) :=
  let step (names : List Path) (part : Path) : List Path :=
    if part = "" ∨ part = "." then names else if part = ".." then names.dropLast else names ++ [part]
  (Path.parts path).scanl step []

/-- The picture of a path. Of what is neither a file nor a directory, the text is left out, and so are directories
deeper than `fuel`. -/
def picture (path : Path) : Nat → IO (Option Entry)
  | 0 => return none
  | fuel + 1 => do
    let place := (← IO.currentDir) / path.text
    if ← place.isDir then
      let some children ← (some <$> place.readDir) <|> pure none | return some .locked
      let mut entries := []
      for child in children do
        let isLeftOut := isSkippedDirectory child.fileName && (← child.path.isDir)
        if !isLeftOut then
          if let some entry ← picture (Path.join path child.fileName) fuel then
            entries := (Path.ofString child.fileName, entry) :: entries
      return some (.directory entries)
    else if ← place.pathExists then
      if (← place.metadata).type == .other then
        return some (.special none)
      try
        return some (Entry.ofBytes (← IO.FS.readBinFile place))
      catch _ =>
        return some (.file none)
    else
      return none

/-- The tree with the picture of a path and of the directories on the way to it. -/
def addPicture (tree : Entry) (path : Path) : IO Entry := do
  let mut tree := tree
  for names in waypoints path do
    let place := (← IO.currentDir) / ("/" ++ "/".intercalate (names.map Path.text))
    if ← place.isDir then
      tree := Entry.put (.directory []) names tree
  match ← picture path Path.maxBytes with
  | some entry => return Entry.put entry ((waypoints path).getLast?.getD []) tree
  | none => return tree

/-- What is said about a command line that is not understood. -/
def usage : String :=
  "usage: [-v] [--quiet] annotate PATH... [--format text|json|jsonl] [--config FILE] [--palette COLOURS]\n"
    ++ "       [--fixit-marker TEXT] [--strict-allocation-returns] [--indent-width N]\n"
    ++ "       [-v] [--quiet] config validate|show [--path FILE]"

/-- Runs a command line and gives its exit code. -/
def execute (args : List String) : IO UInt32 := do
  match Invocation.parse? args with
  | none =>
    IO.eprintln usage
    return UInt32.ofNat Outcome.usage.exitCode
  | some invocation =>
    let directory := (← IO.currentDir).toString
    let home := Entry.put (.directory []) ((waypoints directory).getLast?.getD []) (.directory [])
    let tree ← (invocation.command.sources directory).foldlM addPicture home
    let completion := invocation.run ⟨tree, directory⟩
    for record in completion.log do
      IO.eprintln record.line
    if let some message := completion.failure? then
      IO.eprintln ("Error: " ++ message)
    IO.print completion.stdout
    return UInt32.ofNat completion.exitCode

end DefectTrail.CommandLine

def main (args : List String) : IO UInt32 := DefectTrail.CommandLine.execute args
