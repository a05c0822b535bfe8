import DefectTrail.Config.Settings
import DefectTrail.Failure
import DefectTrail.FileTree
import DefectTrail.Json.Reader
import DefectTrail.Report.Codec

/-!
# Collecting and annotating report files

A path that names a file stands for that file. A path that names a directory stands for the JSON files below it, less
those in skipped directories and those that the settings exclude, in the order of their paths; each directory on the
way has to be one that can be opened. Annotation goes through the files in that order and ends at the first that cannot
be read.
-/

namespace DefectTrail

/-! ## Collecting -/

/-- Whether a directory met on the way is left out. One whose name is no text never is. -/
def isSkippedDirectory (name : Path) : Bool :=
  match name.text? with
  | some text => text.toList.head? = some '.' || text == "node_modules" || text == "target"
  | none => false

/-- Whether a file met on the way is read. -/
def isJsonFile (name : Path) : Bool := Path.extension? name = some (Path.ofString "json")

namespace Entry

mutual

/-- The paths of the JSON files among the entries of a directory and below. -/
def jsonFiles (directory : Path) : List (Path × Entry) → List Path
  | [] => []
  | (name, entry) :: entries => entry.jsonFilesAs name (Path.join directory name) ++ jsonFiles directory entries

/-- The paths of the JSON files that an entry, met under a name and path, stands for. -/
def jsonFilesAs (name path : Path) : Entry → List Path
  | .file _ => if isJsonFile name then [path] else []
  | .special _ | .locked => []
  | .directory entries => if isSkippedDirectory name then [] else jsonFiles path entries

end

mutual

/-- Whether a directory on the way through the entries of a directory cannot be opened. -/
def outOfReach (directory : Path) : List (Path × Entry) → Bool
  | [] => false
  | (name, entry) :: entries => entry.outOfReachAs name (Path.join directory name) || outOfReach directory entries

/-- Whether an entry, met under a name and path, leads through a directory that cannot be opened, because it is locked
or its path is too long. -/
def outOfReachAs (name path : Path) : Entry → Bool
  | .file _ | .special _ => false
  | .locked => !isSkippedDirectory name
  | .directory entries => !isSkippedDirectory name && (Path.isTooLong path || outOfReach path entries)

end

end Entry

namespace Disk

/-- The report files that a path stands for. -/
def reportFiles (disk : Disk) (path : Path) (settings : Option Settings) : Except Failure (List Path) :=
  match disk.entryAt? path with
  | none | some (.special _) => .error (.missingPath path)
  | some (.file _) => .ok [path]
  | some .locked => .error (.unreadableDirectory path)
  | some (.directory entries) =>
    if Entry.outOfReach path entries then .error (.unreadableDirectory path)
    else
      let found := (Entry.jsonFiles path entries).filter fun file => settings.all (·.includes file)
      .ok (found.mergeSort Path.le)

end Disk

/-! ## Reading -/

/-- The bundles of a document's text, all of which has to be readable. -/
def parseBundles? (text : String) : Option (List Bundle) :=
  match Json.parse? text with
  | some v => if v.isReadable then Bundle.listOfJson? v else none
  | none => none

/-- The bundles of a file. -/
def Disk.bundles (disk : Disk) (file : Path) : Except Failure (List Bundle) :=
  match disk.read? file with
  | none => .error (.unreadableReports file)
  | some text =>
    match parseBundles? text with
    | none => .error (.malformedReports file)
    | some bundles => .ok bundles

/-! ## Annotating -/

/-- A result or a failure, with what was logged until then. -/
@[ext] structure Journal (α : Type) where
  result : Except Failure α
  log : List LogRecord

namespace Journal

/-- A result that nothing is logged for. -/
def ofResult {α : Type} (result : Except Failure α) : Journal α := ⟨result, []⟩

/-- Goes on with a result; a failure ends the journal. -/
def andThen {α β : Type} (j : Journal α) (f : α → Journal β) : Journal β :=
  match j.result with
  | .error failure => ⟨.error failure, j.log⟩
  | .ok a =>
    let next := f a
    ⟨next.result, j.log ++ next.log⟩

instance : Monad Journal where
  pure a := ⟨.ok a, []⟩
  bind := andThen

@[simp] theorem pure_eq {α : Type} (a : α) : (pure a : Journal α) = ⟨.ok a, []⟩ := rfl

@[simp] theorem mk_error_bind {α β : Type} (failure : Failure) (log : List LogRecord) (f : α → Journal β) :
    (⟨.error failure, log⟩ : Journal α) >>= f = ⟨.error failure, log⟩ := rfl

@[simp] theorem mk_ok_bind {α β : Type} (a : α) (log : List LogRecord) (f : α → Journal β) :
    (⟨.ok a, log⟩ : Journal α) >>= f = ⟨(f a).result, log ++ (f a).log⟩ := rfl

/-- Goes through a list and joins the results, up to the first failure. -/
def collect {α β : Type} (f : α → Journal (List β)) : List α → Journal (List β)
  | [] => pure []
  | a :: as => do
    let first ← f a
    let rest ← collect f as
    return first ++ rest

@[simp] theorem collect_nil {α β : Type} (f : α → Journal (List β)) : collect f [] = ⟨.ok [], []⟩ := rfl

end Journal

namespace Disk

/-- Annotates the bundles of one file. -/
def annotateFile (disk : Disk) (settings : Settings) (file : Path) : Journal (List AnnotatedReport) :=
  match disk.bundles file with
  | .error failure => ⟨.error failure, []⟩
  | .ok bundles =>
    let annotated := Bundle.annotateAll bundles settings.annotateOptions
    ⟨.ok annotated.value, ⟨.debug, file.text ++ ": " ++ toString bundles.length ++ " report(s)"⟩ :: annotated.log⟩

/-- Annotates the bundles of all files that a path stands for. -/
def annotatePath (disk : Disk) (settings : Settings) (path : Path) : Journal (List AnnotatedReport) := do
  let files ← Journal.ofResult (disk.reportFiles path (some settings))
  Journal.collect (disk.annotateFile settings) files

end Disk

end DefectTrail
