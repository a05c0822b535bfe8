import DefectTrail.Proofs.CommandLine.Runs
import DefectTrail.Proofs.CommandLine.Verbosity
import DefectTrail.Proofs.Rendering.Groups

/-!
# Annotating several paths

A run prints the reports of all its paths, or nothing.

* `CommandLine.AnnotateCommand.IsAnnotated` : settings are loaded, and each path gives its reports;
  `CommandLine.AnnotateCommand.isAnnotated_or_fails` : else the settings or a path fail;
* `CommandLine.AnnotateCommand.printed_run_of_isAnnotated`, `CommandLine.AnnotateCommand.exists_printed_run_of_fails` :
  what is printed either way;
* `CommandLine.AnnotateCommand.stdout_only` : what is printed for one of the paths alone;
* `annotate_prints_all_or_nothing` : **the statement as a whole, about a command line**.
-/

namespace DefectTrail

namespace CommandLine

namespace Completion

theorem stdout_eq (c : Completion) : c.stdout = c.printed.toOption.getD "" := by
  rw [stdout]
  cases c.printed <;> rfl

@[simp] theorem stdout_shownAt (threshold : LogLevel) (c : Completion) : (c.shownAt threshold).stdout = c.stdout := rfl

@[simp] theorem exitCode_shownAt (threshold : LogLevel) (c : Completion) :
    (c.shownAt threshold).exitCode = c.exitCode := rfl

end Completion

namespace AnnotateCommand

theorem output_eq (c : AnnotateCommand) (settings : Settings) (all : List AnnotatedReport) :
    c.output settings all =
      c.format.render all settings.indentWidth ++ (if c.format = .json then "\n" else "") := by
  rw [output]
  split
  · rfl
  · rw [String.append_empty]

variable [Glob.Compiler]
variable {c : AnnotateCommand} {disk : Disk} {settings : Settings} {reports : List (List AnnotatedReport)}

/-- The command for one path alone, with the same options. -/
def only (c : AnnotateCommand) (path : String) : AnnotateCommand := { c with paths := [path] }

/-- What a path given to the command comes to. -/
def reportsAt (disk : Disk) (settings : Settings) (path : String) : Except Failure (List AnnotatedReport) :=
  (disk.annotatePath settings (Path.resolve disk.workingDirectory path)).result

/-- The settings are loaded, and the paths give the reports, path by path. -/
structure IsAnnotated (c : AnnotateCommand) (disk : Disk) (settings : Settings)
    (reports : List (List AnnotatedReport)) : Prop where
  loaded : Settings.load disk disk.workingDirectory c.config c.overrides = .ok settings
  annotated : c.paths.map (reportsAt disk settings) = reports.map .ok

/-- No settings are loaded, or a path fails. -/
def Fails (c : AnnotateCommand) (disk : Disk) : Prop :=
  ∀ settings, Settings.load disk disk.workingDirectory c.config c.overrides = .ok settings →
    ∃ path ∈ c.paths, ∃ failure, reportsAt disk settings path = .error failure

theorem isAnnotated_or_fails (c : AnnotateCommand) (disk : Disk) :
    (∃ settings reports, c.IsAnnotated disk settings reports) ∨ c.Fails disk := by
  cases hload : Settings.load disk disk.workingDirectory c.config c.overrides with
  | error failure =>
      right
      intro settings h
      rw [hload] at h
      cases h
  | ok settings =>
      cases hreports : (c.reports disk settings).result with
      | ok all =>
          obtain ⟨reports, hpaths, -⟩ := Journal.result_collect_eq_ok_iff.1 hreports
          exact .inl ⟨settings, reports, hload, hpaths⟩
      | error failure =>
          obtain ⟨path, hpath, hfails⟩ := Journal.exists_mem_of_result_collect_eq_error hreports
          right
          intro settings' h
          obtain rfl := Except.ok.inj (hload.symm.trans h)
          exact ⟨path, hpath, failure, hfails⟩

theorem result_reports_of_isAnnotated (h : c.IsAnnotated disk settings reports) :
    (c.reports disk settings).result = .ok reports.flatten :=
  Journal.result_collect_eq_ok_iff.2 ⟨reports, h.annotated, rfl⟩

theorem printed_run_of_isAnnotated (h : c.IsAnnotated disk settings reports) :
    (c.run disk).printed = .ok (c.output settings reports.flatten) := by
  rw [printed_run h.loaded, result_reports_of_isAnnotated h]
  rfl

theorem exists_printed_run_of_fails (h : c.Fails disk) : ∃ message, (c.run disk).printed = .error message := by
  cases hload : Settings.load disk disk.workingDirectory c.config c.overrides with
  | error failure => exact ⟨_, printed_run_of_error hload⟩
  | ok settings =>
      rw [printed_run hload]
      cases hreports : (c.reports disk settings).result with
      | error failure => exact ⟨_, rfl⟩
      | ok all =>
          obtain ⟨path, hpath, failure, hfails⟩ := h settings hload
          obtain ⟨part, hpart⟩ := Journal.exists_result_eq_ok_of_mem hreports hpath
          cases hfails.symm.trans hpart

theorem exists_isAnnotated_of_exitCode (h : (c.run disk).exitCode = 0) :
    ∃ settings reports, c.IsAnnotated disk settings reports := by
  rcases c.isAnnotated_or_fails disk with hannotated | hfails
  · exact hannotated
  · obtain ⟨message, hmessage⟩ := exists_printed_run_of_fails hfails
    rw [Completion.exitCode_of_error hmessage] at h
    cases h

/-! ## One path alone -/

/-- A path alone gives its own reports. -/
theorem map_printed_only (h : c.IsAnnotated disk settings reports) :
    c.paths.map (fun path => ((c.only path).run disk).printed) =
      reports.map fun part => .ok (c.output settings part) := by
  have honly (path : String) : ((c.only path).run disk).printed =
      ((reportsAt disk settings path).map (c.output settings)).mapError Failure.headline := by
    have hloaded : Settings.load disk disk.workingDirectory (c.only path).config (c.only path).overrides =
        .ok settings :=
      h.loaded
    rw [printed_run hloaded, AnnotateCommand.reports, only, Journal.result_collect_singleton]
    rfl
  have hmap := congrArg (List.map fun result => (result.map (c.output settings)).mapError Failure.headline) h.annotated
  rw [List.map_map, List.map_map] at hmap
  exact (List.map_congr_left fun path _ => honly path).trans hmap

theorem map_stdout_only (h : c.IsAnnotated disk settings reports) :
    c.paths.map (fun path => ((c.only path).run disk).stdout) = reports.map (c.output settings) := by
  have hmap := congrArg (List.map fun printed => (Except.toOption printed).getD "") (map_printed_only h)
  rw [List.map_map, List.map_map] at hmap
  simp only [Completion.stdout_eq]
  exact hmap

theorem exitCode_only (h : c.IsAnnotated disk settings reports) {path : String} (hpath : path ∈ c.paths) :
    ((c.only path).run disk).exitCode = 0 := by
  have hmem : ((c.only path).run disk).printed ∈ reports.map fun part => .ok (c.output settings part) :=
    map_printed_only h ▸ List.mem_map_of_mem hpath
  obtain ⟨part, -, hpart⟩ := List.mem_map.1 hmem
  exact Completion.exitCode_of_ok hpart.symm

/-! ## All paths from each alone -/

theorem stdout_of_isAnnotated (h : c.IsAnnotated disk settings reports) :
    (c.run disk).stdout = c.output settings reports.flatten :=
  Completion.stdout_of_ok (printed_run_of_isAnnotated h)

theorem stdout_of_jsonl (h : c.IsAnnotated disk settings reports) (hformat : c.format = .jsonl) :
    (c.run disk).stdout = String.join (c.paths.map fun path => ((c.only path).run disk).stdout) := by
  have houtput : c.output settings = renderJsonLines := by
    funext all
    rw [output_eq, hformat]
    exact String.append_empty
  rw [stdout_of_isAnnotated h, map_stdout_only h, houtput, renderJsonLines_flatten]

theorem stdout_of_text (h : c.IsAnnotated disk settings reports) (hformat : c.format = .text) :
    (c.run disk).stdout =
      "\n".intercalate ((c.paths.map fun path => ((c.only path).run disk).stdout).filter (· ≠ "")) := by
  have houtput : c.output settings = (renderText · settings.indentWidth) := by
    funext all
    rw [output_eq, hformat]
    exact String.append_empty
  rw [stdout_of_isAnnotated h, map_stdout_only h, houtput]
  exact renderText_flatten reports settings.indentWidth

theorem exists_parse?_stdout_of_json (h : c.IsAnnotated disk settings reports) (hformat : c.format = .json) :
    ∃ arrays : List (List Json),
      (c.paths.map fun path => Json.parse? ((c.only path).run disk).stdout) =
        arrays.map (fun items => some (.array items)) ∧
      Json.parse? (c.run disk).stdout = some (.array arrays.flatten) := by
  have houtput (all : List AnnotatedReport) : c.output settings all = renderJson all ++ "\n" := by
    rw [output_eq, hformat]
    rfl
  obtain ⟨item, hitem⟩ := exists_parse?_renderJson
  refine ⟨reports.map (·.map item), ?_, ?_⟩
  · have hparts := congrArg (List.map Json.parse?) (map_stdout_only h)
    rw [List.map_map, List.map_map] at hparts
    refine hparts.trans ?_
    rw [List.map_map]
    refine List.map_congr_left fun part _ => ?_
    rw [Function.comp_apply, houtput, hitem]
    rfl
  · rw [stdout_of_isAnnotated h, houtput, hitem, List.map_flatten]

end AnnotateCommand

end CommandLine

/-! ## The run as a whole -/

open CommandLine in
/-- **An `annotate` command line prints the reports of all its paths or fails with nothing printed; what it prints is
made up of what is printed for each path alone; and how much is logged makes no difference to it.** -/
theorem annotate_prints_all_or_nothing [Glob.Compiler] {disk : Disk} {args : List String} {v : Verbosity} {c : AnnotateCommand}
    (h : Invocation.parse? args = some ⟨v, .annotate c⟩) :
    ∃ completion, run disk args = .completed completion ∧
      ((∃ settings reports, c.IsAnnotated disk settings reports) ∨ c.Fails disk) ∧
      (∀ settings reports, c.IsAnnotated disk settings reports → completion.exitCode = 0 ∧
        completion.stdout =
          c.format.render reports.flatten settings.indentWidth ++ (if c.format = .json then "\n" else "")) ∧
      (c.Fails disk → completion.exitCode = 1 ∧ completion.stdout = "") ∧
      (completion.exitCode = 0 → ∃ parts : List Completion,
        parts = c.paths.map (fun path => Invocation.run ⟨v, .annotate (c.only path)⟩ disk) ∧
        (∀ part ∈ parts, part.exitCode = 0) ∧
        (c.format = .jsonl → completion.stdout = String.join (parts.map (·.stdout))) ∧
        (c.format = .text → completion.stdout = "\n".intercalate ((parts.map (·.stdout)).filter (· ≠ ""))) ∧
        (c.format = .json → ∃ arrays : List (List Json),
          parts.map (fun part => Json.parse? part.stdout) = arrays.map (fun items => some (.array items)) ∧
            Json.parse? completion.stdout = some (.array arrays.flatten))) ∧
      ∃ other, run disk (withoutVerbosity args) = .completed other ∧ other.stdout = completion.stdout ∧
        other.exitCode = completion.exitCode := by
  refine ⟨(c.run disk).shownAt v.threshold, run_eq_completed h disk, c.isAnnotated_or_fails disk,
    fun settings reports hannotated => ?_, fun hfails => ?_, fun hexit => ?_,
    ⟨(c.run disk).shownAt .warn, run_eq_completed (Invocation.parse?_withoutVerbosity h) disk, rfl, rfl⟩⟩
  · exact ⟨Completion.exitCode_of_ok (AnnotateCommand.printed_run_of_isAnnotated hannotated),
      (AnnotateCommand.stdout_of_isAnnotated hannotated).trans (c.output_eq settings reports.flatten)⟩
  · obtain ⟨message, hmessage⟩ := AnnotateCommand.exists_printed_run_of_fails hfails
    refine ⟨Completion.exitCode_of_error hmessage, ?_⟩
    rw [Completion.stdout_shownAt, Completion.stdout_eq, hmessage]
    rfl
  · rw [Completion.exitCode_shownAt] at hexit
    obtain ⟨settings, reports, hannotated⟩ := AnnotateCommand.exists_isAnnotated_of_exitCode hexit
    refine ⟨_, rfl, fun part hpart => ?_, fun hformat => ?_, fun hformat => ?_, fun hformat => ?_⟩
    · obtain ⟨path, hpath, rfl⟩ := List.mem_map.1 hpart
      exact AnnotateCommand.exitCode_only hannotated hpath
    · rw [List.map_map]
      exact AnnotateCommand.stdout_of_jsonl hannotated hformat
    · rw [List.map_map]
      exact AnnotateCommand.stdout_of_text hannotated hformat
    · rw [List.map_map]
      exact AnnotateCommand.exists_parse?_stdout_of_json hannotated hformat

/-! ## Two files -/

/-- A working directory with a file of one report and a file of none. -/
def Disk.withTwoFiles : Disk :=
  ⟨.directory [("p", .directory [
    ("a.json", .file (some "\x7b\"report\":\x7b\"reportId\":1,\"checkerMsg\":\"m\"\x7d\x7d")),
    ("b.json", .file (some "[]"))])], "/p"⟩

open CommandLine in
/-- Both files are annotated; the one without a report leaves no trace in the text. -/
theorem annotate_prints_all_or_nothing_two_files :
    Invocation.parse? ["annotate", "a.json", "-v", "b.json"] =
        some ⟨⟨1, false⟩, .annotate ⟨["a.json", "b.json"], .text, none, .none⟩⟩ ∧
      ∃ completion other, run Disk.withTwoFiles ["annotate", "a.json", "-v", "b.json"] = .completed completion ∧
        completion.exitCode = 0 ∧ completion.stdout = "Report 1 [-]\n  m\n" ∧
        run Disk.withTwoFiles ["annotate", "a.json", "b.json"] = .completed other ∧
        other.stdout = completion.stdout := by
  have hparse : Invocation.parse? ["annotate", "a.json", "-v", "b.json"] =
      some ⟨⟨1, false⟩, .annotate ⟨["a.json", "b.json"], .text, none, .none⟩⟩ := by decide +kernel
  have hload : Settings.load Disk.withTwoFiles "/p" none .none = .ok .standard := by rfl
  have hfile : Disk.withTwoFiles.entryAt? "/p/a.json" =
      some (.file (some "\x7b\"report\":\x7b\"reportId\":1,\"checkerMsg\":\"m\"\x7d\x7d")) := by rfl
  have hfile' : Disk.withTwoFiles.entryAt? "/p/b.json" = some (.file (some "[]")) := by rfl
  have hbundles : parseBundles? "\x7b\"report\":\x7b\"reportId\":1,\"checkerMsg\":\"m\"\x7d\x7d" =
      some [⟨⟨1, "m", ""⟩, Details.empty⟩] := by decide +kernel
  have hbundles' : parseBundles? "[]" = some [] := by decide +kernel
  have hannotated : AnnotateCommand.IsAnnotated ⟨["a.json", "b.json"], .text, none, .none⟩ Disk.withTwoFiles .standard
      [(Bundle.annotateAll [⟨⟨1, "m", ""⟩, Details.empty⟩] .default).value, []] := by
    refine ⟨hload, ?_⟩
    have hfirst : AnnotateCommand.reportsAt Disk.withTwoFiles .standard "a.json" =
        .ok (Bundle.annotateAll [⟨⟨1, "m", ""⟩, Details.empty⟩] .default).value :=
      Disk.result_annotatePath_of_bundles hfile hbundles
    have hsecond : AnnotateCommand.reportsAt Disk.withTwoFiles .standard "b.json" =
        .ok [] :=
      Disk.result_annotatePath_of_bundles hfile' hbundles'
    rw [List.map_cons, List.map_cons, hfirst, hsecond]
    rfl
  obtain ⟨completion, hcompletion, -, hprinted, -, -, other, hother, hstdout, -⟩ :=
    @annotate_prints_all_or_nothing _ Disk.withTwoFiles _ _ _ hparse
  obtain ⟨hexit, htext⟩ := hprinted _ _ hannotated
  have hargs : withoutVerbosity ["annotate", "a.json", "-v", "b.json"] = ["annotate", "a.json", "b.json"] := by decide
  rw [hargs] at hother
  refine ⟨hparse, completion, other, hcompletion, hexit, htext.trans ?_, hother, hstdout⟩
  decide +kernel

end DefectTrail
