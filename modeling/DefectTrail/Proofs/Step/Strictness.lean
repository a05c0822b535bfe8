import DefectTrail.Proofs.Step.Mismatches

/-!
# Strict and lax allocation returns

The two ways to read an allocation return differ where no call is open, and there only.

* `CallStack.take_strict_of_not`, `CallStack.take_strict_of_openCalls_eq_nil` : one step, elsewhere and there;
* `stackAt_strict` : before every step the same calls are open in the same band;
* `ReleasesNothing` : the positions of allocation returns without an open call; `classifiedAt?_strict_of_not`,
  `classifiedAt?_of_releasesNothing` : what is found out elsewhere and there;
* `levelAt_strict`, `mismatchAt?_lax` : what this makes of levels and mismatches;
* `strict_and_lax_differ_where_nothing_is_released` : the statement as a whole, about annotated paths.
-/

namespace DefectTrail

namespace StackRules

/-- The rules for which an allocation return without an open call is a mismatch. -/
def strict (palette : Palette) : StackRules := ⟨palette, true⟩

/-- The rules for which such a return closes nothing. -/
def lax (palette : Palette) : StackRules := ⟨palette, false⟩

end StackRules

/-! ## One step -/

namespace CallStack

variable {s : CallStack} {kind : StepKind} (palette : Palette)

theorem take_strict_of_not (h : ¬ (kind = .returnedAllocatedMemory ∧ s.openCalls = [])) :
    s.take (.strict palette) kind = s.take (.lax palette) kind := by
  cases kind with
  | returnedAllocatedMemory =>
      have hopen : s.openCalls ≠ [] := fun hnil => h ⟨rfl, hnil⟩
      rw [take, take, if_neg fun hrefused => hopen hrefused.2, if_neg fun hrefused => hopen hrefused.2]
      rfl
  | _ => rfl

/-- A strict reading refuses the step and a lax one accepts it; both leave no call open. -/
theorem take_strict_of_openCalls_eq_nil (hopen : s.openCalls = []) (hband : s.bandDepth = s.depth) :
    s.take (.strict palette) .returnedAllocatedMemory =
        ((s.refuse (.strict palette) none).1, ⟨[], 0, s.steps + 1⟩) ∧
      s.take (.lax palette) .returnedAllocatedMemory =
        (⟨s.band palette, .returning, none, []⟩, ⟨[], 0, s.steps + 1⟩) := by
  have hdepth : s.bandDepth = 0 := by rw [hband, depth, hopen, List.length_nil]
  constructor
  · have hrefused : (StackRules.strict palette).strictAllocationReturns = true ∧ s.openCalls = [] := ⟨rfl, hopen⟩
    rw [take, if_pos hrefused, ← hopen, ← hdepth]
    rfl
  · have hnot : ¬ ((StackRules.lax palette).strictAllocationReturns = true ∧ s.openCalls = []) :=
      fun hrefused => Bool.false_ne_true hrefused.1
    rw [take, if_neg hnot, hopen]
    rfl

theorem next_strict (kind : StepKind) (hband : s.bandDepth = s.depth) :
    (s.take (.strict palette) kind).2 = (s.take (.lax palette) kind).2 := by
  by_cases h : kind = .returnedAllocatedMemory ∧ s.openCalls = []
  · obtain ⟨rfl, hopen⟩ := h
    obtain ⟨hstrict, hlax⟩ := take_strict_of_openCalls_eq_nil palette hopen hband
    rw [hstrict, hlax]
  · rw [take_strict_of_not palette h]

end CallStack

/-! ## The step at a position -/

section
variable (palette : Palette) (messages : List String)

/-- The step at a position is an allocation return, and no call is open before it. -/
def ReleasesNothing (i : Nat) : Prop :=
  messages[i]? = some "Returned allocated memory" ∧ (stackAt (.lax palette) messages i).openCalls = []

instance (i : Nat) : Decidable (ReleasesNothing palette messages i) :=
  inferInstanceAs (Decidable (messages[i]? = some "Returned allocated memory" ∧ _ = []))

theorem bandDepth_stackAt (rules : StackRules) (i : Nat) :
    (stackAt rules messages i).bandDepth = (stackAt rules messages i).depth :=
  CallStack.bandDepth_after rules _ rfl

theorem stackAt_strict (i : Nat) : stackAt (.strict palette) messages i = stackAt (.lax palette) messages i := by
  induction i with
  | zero => rfl
  | succ i ih =>
      cases hm : messages[i]? with
      | none => rw [stackAt_succ_of_none hm, stackAt_succ_of_none hm, ih]
      | some m =>
          rw [stackAt_succ hm, stackAt_succ hm, ih]
          exact CallStack.next_strict palette _ (bandDepth_stackAt messages _ i)

variable {palette messages} {i : Nat}

theorem classifiedAt?_strict_of_not (h : ¬ ReleasesNothing palette messages i) :
    classifiedAt? (.strict palette) messages i = classifiedAt? (.lax palette) messages i := by
  cases hm : messages[i]? with
  | none => rw [classifiedAt?_of_none hm, classifiedAt?_of_none hm]
  | some m =>
      have hkind : ¬ (StepKind.ofMessage m = .returnedAllocatedMemory ∧
          (stackAt (.lax palette) messages i).openCalls = []) := by
        rintro ⟨hm', hopen⟩
        rw [StepKind.ofMessage_eq_returnedAllocatedMemory_iff] at hm'
        exact h ⟨hm' ▸ hm, hopen⟩
      rw [classifiedAt?, classifiedAt?, hm, Option.map_some, Option.map_some, stackAt_strict, CallStack.classify,
        CallStack.classify, CallStack.take_strict_of_not palette hkind]

theorem classifiedAt?_of_releasesNothing (h : ReleasesNothing palette messages i) :
    (∃ band log, classifiedAt? (.strict palette) messages i = some ⟨band, .default, some ⟨i, none, none⟩, log⟩) ∧
      ∃ band, classifiedAt? (.lax palette) messages i = some ⟨band, .returning, none, []⟩ := by
  obtain ⟨hm, hopen⟩ := h
  obtain ⟨hstrict, hlax⟩ :=
    CallStack.take_strict_of_openCalls_eq_nil palette hopen (bandDepth_stackAt messages (.lax palette) i)
  have hkind := StepKind.ofMessage_eq_returnedAllocatedMemory_iff.2 (rfl : "Returned allocated memory" = _)
  have hsteps : (stackAt (.lax palette) messages i).steps = i :=
    steps_stackAt _ (Nat.le_of_lt (List.getElem?_eq_some_iff.1 hm).1)
  have htop : (stackAt (.lax palette) messages i).top = none := by rw [CallStack.top, hopen, List.head?_nil]
  constructor
  · rw [classifiedAt?, hm, Option.map_some, stackAt_strict, CallStack.classify, hkind, hstrict]
    rw [CallStack.refuse, hsteps, htop]
    exact ⟨_, _, rfl⟩
  · rw [classifiedAt?, hm, Option.map_some, CallStack.classify, hkind, hlax]
    exact ⟨_, rfl⟩

theorem levelAt_strict (i : Nat) :
    levelAt (.strict palette) messages i =
      levelAt (.lax palette) messages i + (List.range i).countP (ReleasesNothing palette messages ·) := by
  induction i with
  | zero => rfl
  | succ i ih =>
      rw [List.range_succ, List.countP_append, List.countP_singleton]
      by_cases h : ReleasesNothing palette messages i
      · obtain ⟨⟨_, _, hstrict⟩, _, hlax⟩ := classifiedAt?_of_releasesNothing h
        rw [levelAt_succ hstrict, levelAt_succ hlax, ih, if_pos (by simp [h])]
        simp only [StepIcon.levelChange]
        push_cast
        omega
      · rw [if_neg (by simp [h])]
        have hsame := classifiedAt?_strict_of_not h
        cases hc : classifiedAt? (.lax palette) messages i with
        | none =>
            have hm : messages[i]? = none := Option.map_eq_none_iff.1 hc
            rw [levelAt_succ_of_none hm, levelAt_succ_of_none hm, ih, Nat.add_zero]
        | some c =>
            rw [levelAt_succ hc, levelAt_succ (hsame.trans hc), ih]
            omega

/-- Only allocation returns without an open call are refused by a strict reading alone. -/
theorem mismatchAt?_lax (i : Nat) :
    mismatchAt? (.lax palette) messages i =
      (mismatchAt? (.strict palette) messages i).filter (·.returnedFrom.isSome) := by
  by_cases h : ReleasesNothing palette messages i
  · obtain ⟨⟨_, _, hstrict⟩, _, hlax⟩ := classifiedAt?_of_releasesNothing h
    rw [mismatchAt?, mismatchAt?, hstrict, hlax]
    rfl
  · have hsame : mismatchAt? (.strict palette) messages i = mismatchAt? (.lax palette) messages i := by
      rw [mismatchAt?, mismatchAt?, classifiedAt?_strict_of_not h]
    rw [hsame]
    cases hx : mismatchAt? (.lax palette) messages i with
    | none => rfl
    | some x =>
        rcases mismatchAt?_eq_some_iff.1 hx with ⟨function, -, -, rfl⟩ | ⟨-, hstrict, -⟩
        · rfl
        · cases hstrict

end

/-! ## Annotated paths -/

section
variable (report : ReportSummary) (events : List Event) (options : AnnotateOptions)

theorem band_of_getElem?_trace (rules : StackRules) (messages : List String) (m : String) (i : Nat) :
    ((Walk.start.after rules (messages.take i)).step rules m).1.classified.band =
      (stackAt rules messages i).band rules.palette := by
  rw [← stack_after_take]
  exact (CallStack.takes_take _ _ _).band_eq

/-- Events, bands and marks do not depend on strictness. -/
theorem map_event_band_marker_steps (strict lax : AnnotateOptions)
    (hstrict : strict.stackRules = .strict options.palette) (hlax : lax.stackRules = .lax options.palette)
    (hmarker : strict.fixitMarker = lax.fixitMarker) :
    (annotatePathEvents report events strict).steps.map (fun s => (s.event, s.band, s.marker)) =
      (annotatePathEvents report events lax).steps.map (fun s => (s.event, s.band, s.marker)) := by
  apply List.ext_getElem?
  intro i
  rw [List.getElem?_map, List.getElem?_map, getElem?_steps, getElem?_steps, hstrict, hlax]
  cases events[i]? with
  | none => rfl
  | some event =>
      simp only [Option.map_some, annotateStep, band_of_getElem?_trace, stackAt_strict, hmarker]
      rfl

end

/-- **Strict and lax allocation returns differ where nothing is released, and there only.** -/
theorem strict_and_lax_differ_where_nothing_is_released (report : ReportSummary) (events : List Event)
    (options : AnnotateOptions) :
    let messages := events.map (·.msg)
    let strict : AnnotateOptions := { options with strictAllocationReturns := true }
    let lax : AnnotateOptions := { options with strictAllocationReturns := false }
    let strictPath := annotatePathEvents report events strict
    let laxPath := annotatePathEvents report events lax
    (∀ i, (stackAt strict.stackRules messages i).openCalls = (stackAt lax.stackRules messages i).openCalls ∧
      (stackAt strict.stackRules messages i).band options.palette =
        (stackAt lax.stackRules messages i).band options.palette) ∧
    (strictPath.steps.length = events.length ∧
      strictPath.steps.map (fun s => (s.event, s.band, s.marker)) =
        laxPath.steps.map fun s => (s.event, s.band, s.marker)) ∧
    (∀ (i : Nat) (s t : StepAnnotation), strictPath.steps[i]? = some s → laxPath.steps[i]? = some t →
      (¬ ReleasesNothing options.palette messages i → s.icon = t.icon) ∧
      (ReleasesNothing options.palette messages i → s.icon = .default ∧ t.icon = .returning ∧
        strictPath.mismatches.filter (fun x => x.stepIndex = i) = [⟨i, none, none⟩] ∧
        laxPath.mismatches.filter (fun x => x.stepIndex = i) = []) ∧
      s.level = t.level + (List.range (i + 1)).countP (ReleasesNothing options.palette messages ·)) ∧
    laxPath.mismatches = strictPath.mismatches.filter (·.returnedFrom.isSome) := by
  intro messages strict lax strictPath laxPath
  have hstrict : strict.stackRules = .strict options.palette := rfl
  have hlax : lax.stackRules = .lax options.palette := rfl
  refine ⟨fun i => ?_, ⟨length_steps .., map_event_band_marker_steps report events options strict lax rfl rfl rfl⟩,
    fun i s t hs ht => ?_, ?_⟩
  · rw [hstrict, hlax, stackAt_strict]
    exact ⟨rfl, rfl⟩
  · obtain ⟨hicon, -, hlevel⟩ := icon_band_level_of_getElem?_steps report events strict hs
    obtain ⟨hicon', -, hlevel'⟩ := icon_band_level_of_getElem?_steps report events lax ht
    rw [hstrict, iconAt?] at hicon
    rw [hlax, iconAt?] at hicon'
    refine ⟨fun h => ?_, fun h => ?_, ?_⟩
    · rw [classifiedAt?_strict_of_not h, hicon'] at hicon
      exact (Option.some.inj hicon).symm
    · obtain ⟨⟨band, log, hclassified⟩, band', hclassified'⟩ := classifiedAt?_of_releasesNothing h
      rw [hclassified] at hicon
      rw [hclassified'] at hicon'
      refine ⟨(Option.some.inj hicon).symm, (Option.some.inj hicon').symm, ?_, ?_⟩
      · rw [filter_stepIndex_mismatches, hstrict, mismatchAt?, hclassified]
        rfl
      · rw [filter_stepIndex_mismatches, hlax, mismatchAt?, hclassified']
        rfl
    · rw [hlevel, hlevel', hstrict, hlax, levelAt_strict]
  · rw [mismatches_eq, mismatches_eq, List.filter_filterMap]
    exact congrArg (List.filterMap · _) (funext fun i => mismatchAt?_lax i)

/-- An allocation return that closes a call, one that finds none open, and a return that names another function. -/
theorem strict_and_lax_differ_at_second_release :
    let events := ["Calling 'f'", "Returned allocated memory", "Returned allocated memory",
      "Returning from 'f'"].map Event.bare
    let strict : AnnotateOptions := { AnnotateOptions.default with strictAllocationReturns := true }
    let strictPath := annotatePathEvents ⟨1, "m", ""⟩ events strict
    let laxPath := annotatePathEvents ⟨1, "m", ""⟩ events .default
    ∃ s t, strictPath.steps[2]? = some s ∧ laxPath.steps[2]? = some t ∧
      ReleasesNothing Palette.default (events.map (·.msg)) 2 ∧ s.icon = .default ∧ t.icon = .returning ∧
      strictPath.mismatches.filter (fun x => x.stepIndex = 2) = [⟨2, none, none⟩] ∧ s.level = t.level + 1 ∧
      laxPath.mismatches = [⟨3, some "f", none⟩] := by
  intro events strict strictPath laxPath
  obtain ⟨-, -, hsteps, hmismatches⟩ :=
    strict_and_lax_differ_where_nothing_is_released ⟨1, "m", ""⟩ events AnnotateOptions.default
  have hs : strictPath.steps[2]? = some (strictPath.steps.get ⟨2, by decide +kernel⟩) := List.getElem?_eq_getElem _
  have ht : laxPath.steps[2]? = some (laxPath.steps.get ⟨2, by decide +kernel⟩) := List.getElem?_eq_getElem _
  have hrelease : ReleasesNothing Palette.default (events.map (·.msg)) 2 := by decide +kernel
  obtain ⟨-, hicons, hlevel⟩ := hsteps 2 _ _ hs ht
  obtain ⟨hicon, hicon', hstrict, -⟩ := hicons hrelease
  have hcount : (List.range 3).countP (ReleasesNothing Palette.default (events.map (·.msg)) ·) = 1 := by
    decide +kernel
  exact ⟨_, _, hs, ht, hrelease, hicon, hicon', hstrict, hlevel.trans (congrArg _ (congrArg _ hcount)),
    hmismatches.trans (by decide +kernel)⟩

end DefectTrail
