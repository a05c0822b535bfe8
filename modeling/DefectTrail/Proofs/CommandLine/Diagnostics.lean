import DefectTrail.Proofs.Annotation.Diagnostics
import DefectTrail.Proofs.CommandLine.Composition
import DefectTrail.Proofs.Step.Range

/-!
# What a run says about mismatches

* `Journal.Warns` : the reports of a journal are annotated bundles, and it logs their warnings;
  `Journal.Warns.collect` : so it is for a list, if it is for each part;
* `Disk.warns_annotateFile`, `Disk.warns_annotatePath`, `CommandLine.AnnotateCommand.warns_reports` : files, paths and
  runs;
* `CommandLine.AnnotateCommand.exists_log_run` : what a run logs, but for debugging;
* `diagnostics_agree` : **the statement as a whole, about a report and about a run**.
-/

namespace DefectTrail

namespace LogRecord

theorem shownAt_append (threshold : LogLevel) (xs ys : List LogRecord) :
    shownAt threshold (xs ++ ys) = shownAt threshold xs ++ shownAt threshold ys :=
  List.filter_append ..

/-- What a threshold lets through passes a more generous one. -/
theorem shownAt_shownAt {threshold generous : LogLevel} (h : threshold.rank ≤ generous.rank) (log : List LogRecord) :
    shownAt threshold (shownAt generous log) = shownAt threshold log := by
  rw [shownAt, shownAt, List.filter_filter]
  refine List.filter_congr fun r _ => ?_
  rw [← Bool.decide_and]
  exact decide_eq_decide.2 (and_iff_left_of_imp fun hr => hr.trans h)

end LogRecord

/-! ## Journals -/

namespace Bundle

/-- The reports of bundles. -/
def annotatedReports (bundles : List Bundle) (options : AnnotateOptions) : List AnnotatedReport :=
  bundles.map fun b => (b.annotate options).value

theorem value_annotateAll (bundles : List Bundle) (options : AnnotateOptions) :
    (annotateAll bundles options).value = annotatedReports bundles options :=
  List.map_map ..

theorem shownAt_log_annotateAll (bundles : List Bundle) (options : AnnotateOptions) :
    LogRecord.shownAt .info (annotateAll bundles options).log = bundles.flatMap (·.warnings options) := by
  rw [annotateAll, LogRecord.shownAt, List.flatMap_map, List.filter_flatMap]
  exact List.flatMap_congr fun b _ => b.shownAt_log_annotate options

theorem length_flatMap_warnings (bundles : List Bundle) (options : AnnotateOptions) :
    (bundles.flatMap (·.warnings options)).length =
      ((annotatedReports bundles options).flatMap (·.mismatches)).length := by
  rw [annotatedReports, List.flatMap_map, List.length_flatMap, List.length_flatMap]
  exact congrArg List.sum (List.map_congr_left fun b _ => by rw [warnings_eq, List.length_map])

end Bundle

namespace Journal

/-- Reports that a journal gives are annotated bundles, and but for debugging it logs their warnings. -/
def Warns (j : Journal (List AnnotatedReport)) (options : AnnotateOptions) : Prop :=
  ∀ reports, j.result = .ok reports → ∃ bundles : List Bundle,
    reports = Bundle.annotatedReports bundles options ∧
      LogRecord.shownAt .info j.log = bundles.flatMap (·.warnings options)

theorem Warns.collect {α : Type} {f : α → Journal (List AnnotatedReport)} {options : AnnotateOptions} {as : List α}
    (h : ∀ a ∈ as, (f a).Warns options) : (collect f as).Warns options := by
  induction as with
  | nil =>
      intro reports hreports
      obtain rfl := Except.ok.inj hreports
      exact ⟨[], rfl, rfl⟩
  | cons a as ih =>
      intro reports hreports
      obtain ⟨first, rest, hfirst, hrest, rfl⟩ := result_collect_cons_eq_ok_iff.1 hreports
      obtain ⟨bundles, rfl, hlog⟩ := h a List.mem_cons_self first hfirst
      obtain ⟨bundles', rfl, hlog'⟩ := ih (fun b hb => h b (List.mem_cons_of_mem a hb)) rest hrest
      refine ⟨bundles ++ bundles', List.map_append.symm, ?_⟩
      rw [log_collect_cons hfirst, LogRecord.shownAt_append, hlog, hlog', List.flatMap_append]

end Journal

namespace Disk

variable (disk : Disk) (settings : Settings)

theorem warns_annotateFile (file : Path) : (disk.annotateFile settings file).Warns settings.annotateOptions := by
  intro reports hreports
  cases hbundles : disk.bundles file with
  | error failure =>
      rw [result_annotateFile_of_error hbundles] at hreports
      cases hreports
  | ok bundles =>
      simp only [annotateFile, hbundles] at hreports ⊢
      obtain rfl := Except.ok.inj hreports
      exact ⟨bundles, Bundle.value_annotateAll .., Bundle.shownAt_log_annotateAll ..⟩

theorem warns_annotatePath (path : Path) : (disk.annotatePath settings path).Warns settings.annotateOptions := by
  rw [annotatePath]
  cases disk.reportFiles path (some settings) with
  | error failure =>
      intro reports hreports
      cases hreports
  | ok files =>
      exact Journal.Warns.collect fun file _ => disk.warns_annotateFile settings file

end Disk

/-! ## Runs -/

namespace CommandLine.AnnotateCommand

variable {c : AnnotateCommand} {disk : Disk} {settings : Settings} {groups : List (List AnnotatedReport)}

theorem warns_reports (c : AnnotateCommand) (disk : Disk) (settings : Settings) :
    (c.reports disk settings).Warns settings.annotateOptions :=
  Journal.Warns.collect fun path _ => disk.warns_annotatePath settings (Path.resolve disk.workingDirectory path)

/-- The warnings are what is left at the threshold that is used where none is asked for. -/
theorem shownAt_warn_of_shownAt_info {log warnings : List LogRecord} {reports : List AnnotatedReport}
    (hlog : LogRecord.shownAt .info log = sourceRecords settings ++ warnings ++ [totalRecord reports])
    (hwarnings : ∀ r ∈ warnings, r.level = .warn) : LogRecord.shownAt .warn log = warnings := by
  have hsource : LogRecord.shownAt .warn (sourceRecords settings) = [] := by
    refine List.filter_eq_nil_iff.2 fun r hr => ?_
    obtain ⟨path, -, rfl⟩ := List.mem_map.1 hr
    exact Bool.false_ne_true
  have hkept : LogRecord.shownAt .warn warnings = warnings := by
    refine List.filter_eq_self.2 fun r hr => ?_
    rw [hwarnings r hr]
    rfl
  have hinfo : LogLevel.warn.rank ≤ LogLevel.info.rank := by decide
  rw [← LogRecord.shownAt_shownAt hinfo, hlog, LogRecord.shownAt_append, LogRecord.shownAt_append, hsource, hkept]
  exact List.append_nil _

section
variable [Glob.Compiler]

/-- But for debugging, a run logs where its settings come from, all warnings, and how many these were. -/
theorem exists_log_run (h : c.IsAnnotated disk settings groups) :
    ∃ bundles : List Bundle, groups.flatten = Bundle.annotatedReports bundles settings.annotateOptions ∧
      LogRecord.shownAt .info (c.run disk).log =
        sourceRecords settings ++ bundles.flatMap (·.warnings settings.annotateOptions) ++
          [totalRecord groups.flatten] := by
  have hreports := result_reports_of_isAnnotated h
  obtain ⟨bundles, hbundles, hlog⟩ := c.warns_reports disk settings _ hreports
  refine ⟨bundles, hbundles, ?_⟩
  have hsource : LogRecord.shownAt .info (sourceRecords settings) = sourceRecords settings := by
    refine List.filter_eq_self.2 fun r hr => ?_
    obtain ⟨path, -, rfl⟩ := List.mem_map.1 hr
    rfl
  simp only [run, h.loaded, hreports]
  rw [LogRecord.shownAt_append, LogRecord.shownAt_append, hsource, hlog]
  rfl

/-- The text of a run, with the warnings of each report behind its nodes. -/
theorem stdout_of_text_of_annotatedReports (h : c.IsAnnotated disk settings groups) (hformat : c.format = .text)
    {bundles : List Bundle} (hbundles : groups.flatten = Bundle.annotatedReports bundles settings.annotateOptions) :
    (c.run disk).stdout = "\n".intercalate (bundles.map fun b =>
      let r := (b.annotate settings.annotateOptions).value
      String.join ((r.headerLine :: (r.nodes.filterMap (·.line? settings.indentWidth) ++
        r.mismatches.map fun m => "  warning: " ++ m.text)).map (· ++ "\n"))) := by
  rw [stdout_of_isAnnotated h, output_eq, hformat, hbundles]
  refine (String.append_empty).trans ?_
  rw [Format.render, renderText, Bundle.annotatedReports, List.map_map]
  rfl

end

end CommandLine.AnnotateCommand

/-! ## The statement as a whole -/

open CommandLine in
/-- **What is said about mismatches agrees.** For a report, the log, the summary and the icons tell the mismatches that
are returned; for a run, the log and the text tell those of its reports, and the closing record their number. -/
theorem diagnostics_agree [Glob.Compiler] :
    (∀ (b : Bundle) (options : AnnotateOptions),
      let r := (b.annotate options).value
      (b.annotate options).log = r.mismatches.map (fun m => ⟨.warn, "stack mismatch at " ++ m.text⟩) ++
          [⟨.debug, "report " ++ toString b.report.reportId.toInt ++ ": " ++ toString r.summary.steps ++
            " step(s), max level " ++ toString r.summary.maxLevel ++ ", " ++ toString r.summary.mismatches ++
            " stack mismatch(es)"⟩] ∧
        (r.mismatches.map (·.stepIndex)).Pairwise (· < ·) ∧
        (∀ m ∈ r.mismatches, m.stepIndex < b.details.pathEvents.length) ∧
        ∀ i, i ∈ r.mismatches.map (·.stepIndex) ↔
          ∃ event step, b.details.pathEvents[i]? = some event ∧ r.steps[i]? = some step ∧ step.icon = .default ∧
            ((∃ function, StepKind.ofMessage event.msg = .returning function) ∨
              options.strictAllocationReturns ∧ StepKind.ofMessage event.msg = .returnedAllocatedMemory)) ∧
    ∀ (disk : Disk) (args : List String) (c : AnnotateCommand) (completion : Completion),
      Invocation.parse? args = some ⟨⟨0, false⟩, .annotate c⟩ → run disk args = .completed completion →
      completion.exitCode = 0 → ∃ settings groups, c.IsAnnotated disk settings groups ∧ ∃ bundles : List Bundle,
        groups.flatten = bundles.map (fun b => (b.annotate settings.annotateOptions).value) ∧
        completion.log = bundles.flatMap (·.warnings settings.annotateOptions) ∧
        (c.format = .text → completion.stdout = "\n".intercalate (bundles.map fun b =>
          let r := (b.annotate settings.annotateOptions).value
          String.join ((r.headerLine :: (r.nodes.filterMap (·.line? settings.indentWidth) ++
            r.mismatches.map fun m => "  warning: " ++ m.text)).map (· ++ "\n")))) ∧
        ∀ (verboseArgs : List String) (v : Verbosity) (verbose : Completion),
          Invocation.parse? verboseArgs = some ⟨v, .annotate c⟩ → LogLevel.info.rank ≤ v.threshold.rank →
          run disk verboseArgs = .completed verbose →
          LogRecord.shownAt .info verbose.log = AnnotateCommand.sourceRecords settings ++ completion.log ++
            [⟨.info, "annotated " ++ toString bundles.length ++ " report(s), " ++ toString completion.log.length ++
              " stack mismatch(es)"⟩] := by
  refine ⟨fun b options => ⟨b.log_annotate options, b.pairwise_stepIndex options, fun m hm => ?_,
    fun i => b.mem_map_stepIndex_iff options⟩, fun disk args c completion hparse hrun hexit => ?_⟩
  · exact stepIndex_lt_of_mem_mismatches b.report b.details.pathEvents options hm
  · obtain rfl : (c.run disk).shownAt .warn = completion :=
      Outcome.completed.inj ((run_eq_completed hparse disk).symm.trans hrun)
    rw [Completion.exitCode_shownAt] at hexit
    obtain ⟨settings, groups, hannotated⟩ := AnnotateCommand.exists_isAnnotated_of_exitCode hexit
    obtain ⟨bundles, hbundles, hlog⟩ := AnnotateCommand.exists_log_run hannotated
    have hwarnings : LogRecord.shownAt .warn (c.run disk).log =
        bundles.flatMap (·.warnings settings.annotateOptions) := by
      refine AnnotateCommand.shownAt_warn_of_shownAt_info hlog fun r hr => ?_
      obtain ⟨b, -, hr⟩ := List.mem_flatMap.1 hr
      exact b.level_of_mem_warnings _ hr
    refine ⟨settings, groups, hannotated, bundles, hbundles, hwarnings,
      fun hformat => AnnotateCommand.stdout_of_text_of_annotatedReports hannotated hformat hbundles,
      fun verboseArgs v verbose hparse' hinfo hrun' => ?_⟩
    obtain rfl : (c.run disk).shownAt v.threshold = verbose :=
      Outcome.completed.inj ((run_eq_completed hparse' disk).symm.trans hrun')
    -- the total is the number of warnings
    have htotal : AnnotateCommand.totalRecord groups.flatten = ⟨.info, "annotated " ++ toString bundles.length ++
        " report(s), " ++ toString (LogRecord.shownAt .warn (c.run disk).log).length ++ " stack mismatch(es)"⟩ := by
      rw [hwarnings, Bundle.length_flatMap_warnings, AnnotateCommand.totalRecord, hbundles, Bundle.annotatedReports,
        List.length_map]
    exact (LogRecord.shownAt_shownAt hinfo _).trans (hlog.trans (by rw [htotal, ← hwarnings]; rfl))

/-! ## A return without a call -/

/-- A report whose path is a return. -/
def Bundle.loneReturn : Bundle := ⟨⟨1, "m", ""⟩, ⟨[], [Event.bare "Returning from 'f'"]⟩⟩

/-- The report in JSON. -/
def Bundle.loneReturnText : String :=
  "\x7b\"report\":\x7b\"reportId\":1,\"checkerMsg\":\"m\"\x7d," ++
    "\"details\":\x7b\"pathEvents\":[\x7b\"msg\":\"Returning from 'f'\"\x7d]\x7d\x7d"

/-- A working directory with a file of that report. -/
def Disk.withLoneReturn : Disk :=
  ⟨.directory [("p", .directory [("a.json", .file (some Bundle.loneReturnText))])], "/p"⟩

open CommandLine in
/-- The return is told at its position, in the log of a plain run and in the total of a verbose one. -/
theorem diagnostics_agree_lone_return :
    0 ∈ (Bundle.loneReturn.annotate .default).value.mismatches.map (·.stepIndex) ∧
      Invocation.parse? ["annotate", "a.json"] = some ⟨⟨0, false⟩, .annotate ⟨["a.json"], .text, none, .none⟩⟩ ∧
      Invocation.parse? ["-v", "annotate", "a.json"] =
        some ⟨⟨1, false⟩, .annotate ⟨["a.json"], .text, none, .none⟩⟩ ∧
      ∃ completion verbose, run Disk.withLoneReturn ["annotate", "a.json"] = .completed completion ∧
        completion.exitCode = 0 ∧
        completion.log = [⟨.warn, "stack mismatch at step 0: returned from 'f' with no open call"⟩] ∧
        run Disk.withLoneReturn ["-v", "annotate", "a.json"] = .completed verbose ∧
        LogRecord.shownAt .info verbose.log =
          completion.log ++ [⟨.info, "annotated 1 report(s), 1 stack mismatch(es)"⟩] := by
  obtain ⟨hreport, hruns⟩ := diagnostics_agree
  have hparse : Invocation.parse? ["annotate", "a.json"] =
      some ⟨⟨0, false⟩, .annotate ⟨["a.json"], .text, none, .none⟩⟩ := by decide +kernel
  have hparse' : Invocation.parse? ["-v", "annotate", "a.json"] =
      some ⟨⟨1, false⟩, .annotate ⟨["a.json"], .text, none, .none⟩⟩ := by decide +kernel
  have hrun := run_eq_completed hparse Disk.withLoneReturn
  have hrun' := run_eq_completed hparse' Disk.withLoneReturn
  have hexit : (Invocation.run ⟨⟨0, false⟩, .annotate ⟨["a.json"], .text, none, .none⟩⟩
      Disk.withLoneReturn).exitCode = 0 := by
    decide +kernel
  have hlog : (Invocation.run ⟨⟨0, false⟩, .annotate ⟨["a.json"], .text, none, .none⟩⟩ Disk.withLoneReturn).log =
      [⟨.warn, "stack mismatch at step 0: returned from 'f' with no open call"⟩] := by
    decide +kernel
  obtain ⟨settings, groups, hannotated, bundles, hbundles, -, -, hverbose⟩ := hruns _ _ _ _ hparse hrun hexit
  refine ⟨((hreport .loneReturn .default).2.2.2 0).2 ?_, hparse, hparse', _, _, hrun, hexit, hlog, hrun', ?_⟩
  · have hstep : (Bundle.loneReturn.annotate .default).value.steps[0]? =
        some ⟨Event.bare "Returning from 'f'", .default, ⟨1, .error⟩, Palette.default.color 0, 0⟩ := by decide +kernel
    have hkind : StepKind.ofMessage "Returning from 'f'" = .returning "f" := by decide +kernel
    exact ⟨_, _, rfl, hstep, rfl, .inl ⟨"f", hkind⟩⟩
  · have hinfo : LogLevel.info.rank ≤ (Verbosity.threshold ⟨1, false⟩).rank := by decide
    have hload : Settings.load Disk.withLoneReturn "/p" none .none = .ok .standard := by rfl
    obtain rfl := Except.ok.inj (hload.symm.trans hannotated.loaded)
    have hfile : Disk.withLoneReturn.entryAt? "/p/a.json" = some (.file (some Bundle.loneReturnText)) := by rfl
    have hbundle : parseBundles? Bundle.loneReturnText = some [.loneReturn] := by decide +kernel
    have hreports : AnnotateCommand.reportsAt Disk.withLoneReturn .standard "a.json" =
        .ok (Bundle.annotateAll [Bundle.loneReturn] .default).value :=
      Disk.result_annotatePath_of_bundles hfile hbundle
    have hgroups : groups = [(Bundle.annotateAll [Bundle.loneReturn] .default).value] := by
      have hmap := hannotated.annotated
      rw [List.map_cons, List.map_nil, hreports] at hmap
      exact List.map_injective_iff.2 (fun _ _ => Except.ok.inj) hmap.symm
    have hlength := congrArg List.length hbundles
    rw [hgroups, List.length_map] at hlength
    rw [hverbose _ _ _ hparse' hinfo hrun', hlog, ← hlength]
    rfl

end DefectTrail
