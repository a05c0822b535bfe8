import DefectTrail.Config.Settings
import DefectTrail.Failure
import DefectTrail.FileTree
import DefectTrail.Json.Reader

/-!
# Configuration files

A configuration comes from the file that is named, or else from the first of `sourceNames` that exists in a
directory, or else from nowhere. A file that is found has to be readable and valid by itself, also where flags
replace its values; the configuration with the flags' values in place is then checked as a whole.
-/

namespace DefectTrail.Config

/-- The names under which a configuration is looked for. -/
def sourceNames : List Path := [".bugpathrc.json", "bugpath.config.json"]

/-- Reads a configuration file. -/
def load (disk : Disk) (path : Path) : Except Failure Config := do
  let some text := disk.read? path | throw (.unreadableConfig path)
  let some config := (Json.parse? text).bind ofJson? | throw (.malformedConfig path)
  match config.fault? with
  | some fault => throw (.badConfig path fault)
  | none => return config

/-- The configuration file of a directory. -/
def discover? (disk : Disk) (directory : Path) : Option Path :=
  (sourceNames.map (Path.join directory)).find? disk.exists?

/-- The configuration of a directory with the file it comes from. -/
def loadFor (disk : Disk) (directory : Path) (path : Option Path) : Except Failure (Config × Option Path) :=
  match path <|> discover? disk directory with
  | some source => (load disk source).map fun c => (c, some source)
  | none => .ok (empty, none)

end Config

open Config in
/-- The settings of a directory: the named file or the directory's own, with the given values in place. -/
def Settings.load [Glob.Compiler] (disk : Disk) (directory : Path) (path : Option Path) (overrides : Overrides) :
    Except Failure Settings := do
  let (config, source) ← loadFor disk directory path
  match (config.override overrides).resolve with
  | .error fault => throw (.badSettings fault)
  | .ok settings => return { settings with source := source }

end DefectTrail
