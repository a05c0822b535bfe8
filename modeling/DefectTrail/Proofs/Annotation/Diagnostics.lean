import DefectTrail.Proofs.Step.Mismatches

/-!
# What annotating a report says about mismatches

A mismatch is told among the mismatches of the report, in the log, in the figures of the summary and by the icon of
its step.

* `CallStack.Takes.log_eq` : a step logs its mismatch and nothing else, `log_annotatePathEvents` : and so does a path;
* `map_stepIndex_mismatches` : mismatches come in the order of their positions;
* `isSome_mismatchAt?_iff` : the positions that have one are known by icon and kind;
* `Bundle.log_annotate` : the log of a report; `Bundle.warnings_eq`, `Bundle.shownAt_log_annotate` : its warnings,
  which are all of it but for debugging;
* `Bundle.mem_map_stepIndex_iff` : the positions of the mismatches of a report.
-/

namespace DefectTrail

/-! ## One step -/

namespace CallStack.Takes

variable {s next : CallStack} {rules : StackRules} {kind : StepKind} {c : Classified}

theorem log_eq (h : s.Takes rules kind c next) : c.log = (c.mismatch.map (·.logRecord)).toList := by
  cases h <;> rfl

/-- A mismatch is a return with the default icon. -/
theorem isSome_mismatch_iff (h : s.Takes rules kind c next) :
    c.mismatch.isSome ↔ c.icon = .default ∧
      ((∃ function, kind = .returning function) ∨ rules.strictAllocationReturns ∧ kind = .returnedAllocatedMemory) := by
  cases h with
  | opens function => simp
  | closes kind function rest hopen hkind => simp
  | closesNothing hopen hlax => simp
  | refusesReturn function htop => simp
  | refusesRelease hopen hstrict => simp [hstrict]
  | passes kind icon hkind => cases kind <;> cases hkind <;> simp

end CallStack.Takes

/-! ## A path -/

theorem Walk.log_trace (w : Walk) (rules : StackRules) (messages : List String) :
    (w.trace rules messages).flatMap (·.classified.log) =
      ((w.trace rules messages).filterMap (·.classified.mismatch)).map (·.logRecord) := by
  induction messages generalizing w with
  | nil => rfl
  | cons m messages ih =>
      have hlog : (w.step rules m).1.classified.log =
          ((w.step rules m).1.classified.mismatch.map (·.logRecord)).toList :=
        (CallStack.takes_take w.stack rules (.ofMessage m)).log_eq
      rw [trace_cons, List.flatMap_cons, List.filterMap_cons, ih, hlog]
      cases (w.step rules m).1.classified.mismatch <;> rfl

section
variable (report : ReportSummary) (events : List Event) (options : AnnotateOptions)

theorem log_annotatePathEvents :
    (annotatePathEvents report events options).log =
      (annotatePathEvents report events options).mismatches.map (·.logRecord) :=
  Walk.log_trace ..

theorem map_stepIndex_mismatches :
    (annotatePathEvents report events options).mismatches.map (·.stepIndex) =
      (List.range events.length).filter fun i => (mismatchAt? options.stackRules (events.map (·.msg)) i).isSome := by
  have hpoint (i : Nat) : (mismatchAt? options.stackRules (events.map (·.msg)) i).map (·.stepIndex) =
      Option.guard (fun i => (mismatchAt? options.stackRules (events.map (·.msg)) i).isSome) i := by
    cases h : mismatchAt? options.stackRules (events.map (·.msg)) i with
    | none => rw [Option.guard, if_neg (by rw [h]; exact Bool.false_ne_true)]; rfl
    | some x => rw [Option.guard, if_pos (by rw [h]; rfl), Option.map_some, stepIndex_of_mismatchAt? h]
  rw [mismatches_eq, List.map_filterMap, ← List.filterMap_eq_filter]
  exact congrArg (List.filterMap · _) (funext hpoint)

end

/-- A position has a mismatch if its step is a return, but not drawn as one. -/
theorem isSome_mismatchAt?_iff {rules : StackRules} {messages : List String} {i : Nat} {m : String}
    (h : messages[i]? = some m) :
    (mismatchAt? rules messages i).isSome ↔ iconAt? rules messages i = some .default ∧
      ((∃ function, StepKind.ofMessage m = .returning function) ∨
        rules.strictAllocationReturns ∧ StepKind.ofMessage m = .returnedAllocatedMemory) := by
  obtain ⟨c, next, hc, -, htakes⟩ := takes_at rules h
  rw [mismatchAt?, iconAt?, hc, Option.bind_some, Option.map_some, Option.some_inj]
  exact htakes.isSome_mismatch_iff

/-! ## A report -/

namespace Bundle

variable (b : Bundle) (options : AnnotateOptions)

/-- The warnings of a report are followed by a record of its figures. -/
theorem log_annotate :
    (b.annotate options).log =
      (b.annotate options).value.mismatches.map (·.logRecord) ++ [(b.annotate options).value.logRecord] := by
  simp only [annotate, log_annotatePathEvents]

/-- The warnings that are logged when the bundle is annotated. -/
def warnings : List LogRecord := (b.annotate options).log.filter (·.level = .warn)

/-- Records chosen by their level, so that warnings stay and details do not, are the warnings. -/
theorem filter_log_annotate {p : LogRecord → Bool} (hwarn : ∀ text, p ⟨.warn, text⟩ = true)
    (hdebug : ∀ text, p ⟨.debug, text⟩ = false) :
    (b.annotate options).log.filter p = (b.annotate options).value.mismatches.map (·.logRecord) := by
  have hwarnings : ∀ r ∈ (b.annotate options).value.mismatches.map (·.logRecord), p r = true := by
    intro r hr
    obtain ⟨x, -, rfl⟩ := List.mem_map.1 hr
    exact hwarn _
  have hrecord : ¬ p (b.annotate options).value.logRecord = true := by
    rw [AnnotatedReport.logRecord, hdebug]
    exact Bool.false_ne_true
  rw [log_annotate, List.filter_append, List.filter_eq_self.2 hwarnings, List.filter_cons_of_neg hrecord]
  exact List.append_nil _

theorem warnings_eq : b.warnings options = (b.annotate options).value.mismatches.map (·.logRecord) :=
  b.filter_log_annotate options (fun _ => rfl) fun _ => rfl

theorem shownAt_log_annotate : LogRecord.shownAt .info (b.annotate options).log = b.warnings options :=
  (b.filter_log_annotate options (fun _ => rfl) fun _ => rfl).trans (b.warnings_eq options).symm

theorem level_of_mem_warnings {r : LogRecord} (h : r ∈ b.warnings options) : r.level = .warn :=
  of_decide_eq_true (List.mem_filter.1 h).2

/-- The positions of the mismatches of a report. -/
theorem map_stepIndex_annotate :
    (b.annotate options).value.mismatches.map (·.stepIndex) =
      (List.range b.details.pathEvents.length).filter fun i =>
        (mismatchAt? options.stackRules (b.details.pathEvents.map (·.msg)) i).isSome :=
  map_stepIndex_mismatches b.report b.details.pathEvents options

theorem pairwise_stepIndex : ((b.annotate options).value.mismatches.map (·.stepIndex)).Pairwise (· < ·) := by
  rw [map_stepIndex_annotate]
  exact List.pairwise_lt_range.filter _

theorem mem_map_stepIndex_iff {i : Nat} :
    i ∈ (b.annotate options).value.mismatches.map (·.stepIndex) ↔
      ∃ event step, b.details.pathEvents[i]? = some event ∧ (b.annotate options).value.steps[i]? = some step ∧
        step.icon = .default ∧
        ((∃ function, StepKind.ofMessage event.msg = .returning function) ∨
          options.strictAllocationReturns ∧ StepKind.ofMessage event.msg = .returnedAllocatedMemory) := by
  rw [map_stepIndex_annotate, List.mem_filter, List.mem_range, steps_annotate]
  constructor
  · rintro ⟨hi, hmismatch⟩
    have hevent := List.getElem?_eq_getElem hi
    have hmessage : (b.details.pathEvents.map (·.msg))[i]? = some b.details.pathEvents[i].msg := by
      rw [List.getElem?_map, hevent, Option.map_some]
    have hstep := getElem?_steps b.report b.details.pathEvents options i
    rw [hevent, Option.map_some] at hstep
    obtain ⟨hicon, -, -⟩ := icon_band_level_of_getElem?_steps _ _ _ hstep
    obtain ⟨hdefault, hkind⟩ := (isSome_mismatchAt?_iff hmessage).1 hmismatch
    exact ⟨_, _, hevent, hstep, Option.some.inj (hicon.symm.trans hdefault), hkind⟩
  · rintro ⟨event, step, hevent, hstep, hdefault, hkind⟩
    have hmessage : (b.details.pathEvents.map (·.msg))[i]? = some event.msg := by
      rw [List.getElem?_map, hevent, Option.map_some]
    obtain ⟨hicon, -, -⟩ := icon_band_level_of_getElem?_steps _ _ _ hstep
    rw [hdefault] at hicon
    exact ⟨(List.getElem?_eq_some_iff.1 hevent).1, (isSome_mismatchAt?_iff hmessage).2 ⟨hicon, hkind⟩⟩

end Bundle

end DefectTrail
