import DefectTrail.CommandLine.Run
import DefectTrail.Proofs.Collection

/-!
# What a run gives

* `CommandLine.Completion.exitCode_of_ok` and the like : exit code and output of a run, from what it printed;
* `CommandLine.AnnotateCommand.printed_run` : what is printed for settings that are loaded;
  `CommandLine.AnnotateCommand.printed_run_of_error` : what is said when none are.
-/

namespace DefectTrail

/-- The settings of a run that no file and no option changes. -/
def Settings.standard : Settings := ⟨Palette.default, " (fixit)", false, 2, [], none⟩

namespace CommandLine

namespace Completion

theorem exitCode_of_ok {c : Completion} {text : String} (h : c.printed = .ok text) : c.exitCode = 0 := by
  rw [exitCode, failure?, h]
  rfl

theorem exitCode_of_error {c : Completion} {message : String} (h : c.printed = .error message) : c.exitCode = 1 := by
  rw [exitCode, failure?, h]
  rfl

theorem stdout_of_ok {c : Completion} {text : String} (h : c.printed = .ok text) : c.stdout = text := by
  rw [stdout, h]

end Completion

variable [Glob.Compiler]

namespace AnnotateCommand

/-- What is printed for the reports of a run, or said about their failure. -/
theorem printed_run {c : AnnotateCommand} {disk : Disk} {settings : Settings}
    (hloaded : Settings.load disk disk.workingDirectory c.config c.overrides = .ok settings) :
    (c.run disk).printed =
      ((c.reports disk settings).result.map (c.output settings)).mapError Failure.headline := by
  simp only [run, hloaded]
  cases (c.reports disk settings).result <;> rfl

/-- What is said when no settings are loaded. -/
theorem printed_run_of_error {c : AnnotateCommand} {disk : Disk} {failure : Failure}
    (hfailed : Settings.load disk disk.workingDirectory c.config c.overrides = .error failure) :
    (c.run disk).printed = .error noSettings := by
  simp only [run, hfailed]

end AnnotateCommand

/-- A command line that is understood is answered by its run. -/
theorem run_eq_completed {args : List String} {invocation : Invocation}
    (h : Invocation.parse? args = some invocation) (disk : Disk) :
    run disk args = .completed (invocation.run disk) := by
  rw [run, h]

end CommandLine

end DefectTrail
