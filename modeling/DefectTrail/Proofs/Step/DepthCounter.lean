import DefectTrail.Annotation
import DefectTrail.Proofs.Step.Transition

/-!
# The icons of a path determine its bands and levels

* `counterDepth` : a counter that runs over icons only;
* `CallStack.Takes.depth_eq`, `CallStack.Takes.bandDepth_eq` : one step moves the counter as it moves the open calls,
  and keeps the band that of the depth; `Walk.depth_after`, `band_stackAt` : so does a path;
* `Walk.level_after` : the level counts entries and returns;
* `Walk.trace_congr` : icons, levels and mismatches do not depend on the palette;
* `steps_refine_counter` : the statement as a whole, about annotated steps.
-/

namespace DefectTrail

/-! ## The counter -/

/-- The depth after a step with the given icon; a return without an open call leaves it at zero. -/
def StepIcon.countDepth (depth : Nat) : StepIcon → Nat
  | .calling => depth + 1
  | .returning => depth - 1
  | _ => depth

/-- The depth after steps with the given icons. -/
def counterDepth (icons : List StepIcon) : Nat := icons.foldl StepIcon.countDepth 0

theorem StepIcon.countDepth_of_quietIcon? {kind : StepKind} {icon : StepIcon} (h : kind.quietIcon? = some icon)
    (depth : Nat) : icon.countDepth depth = depth := by
  obtain ⟨hcalling, hreturning⟩ := StepKind.ne_calling_of_quietIcon? h
  cases icon with
  | calling => exact absurd rfl hcalling
  | returning => exact absurd rfl hreturning
  | _ => rfl

theorem StepIcon.levelChange_eq (icon : StepIcon) :
    icon.levelChange = (if icon = .enteredCall then 1 else 0) - (if icon = .returning then 1 else 0) := by
  cases icon <;> rfl

/-! ## The open calls follow the counter -/

namespace CallStack

variable {s next : CallStack} {rules : StackRules} {kind : StepKind} {c : Classified}

theorem Takes.depth_eq (h : s.Takes rules kind c next) : next.depth = c.icon.countDepth s.depth := by
  cases h with
  | opens function => rfl
  | closes _ function rest hopen hkind =>
      rw [depth, depth, hopen]
      rfl
  | closesNothing hopen hlax =>
      rw [depth, depth, hopen]
      rfl
  | refusesReturn function htop => rfl
  | refusesRelease hopen hstrict => rfl
  | passes _ icon hkind => exact (StepIcon.countDepth_of_quietIcon? hkind _).symm

/-- The band is chosen anew where the open calls change, and nowhere else. -/
theorem Takes.bandDepth_eq (h : s.Takes rules kind c next) (hs : s.bandDepth = s.depth) :
    next.bandDepth = next.depth := by
  cases h with
  | refusesReturn function htop => exact hs
  | refusesRelease hopen hstrict => exact hs
  | passes _ icon hkind => exact hs
  | _ => rfl

theorem Takes.band_eq (h : s.Takes rules kind c next) : c.band = s.band rules.palette := by
  cases h <;> rfl

theorem bandDepth_after (rules : StackRules) (ms : List String) (hs : s.bandDepth = s.depth) :
    (s.after rules ms).bandDepth = (s.after rules ms).depth := by
  induction ms generalizing s with
  | nil => exact hs
  | cons m ms ih => exact ih ((takes_take s rules (.ofMessage m)).bandDepth_eq hs)

end CallStack

theorem band_stackAt (rules : StackRules) (messages : List String) (i : Nat) (palette : Palette) :
    (stackAt rules messages i).band palette = palette.color (stackAt rules messages i).depth := by
  rw [CallStack.band, stackAt, CallStack.bandDepth_after rules _ rfl]

namespace Walk

theorem depth_after (w : Walk) (rules : StackRules) (ms : List String) :
    (w.after rules ms).stack.depth =
      ((w.trace rules ms).map (·.classified.icon)).foldl StepIcon.countDepth w.stack.depth := by
  induction ms generalizing w with
  | nil => rfl
  | cons m ms ih =>
      rw [after_cons, trace_cons, List.map_cons, List.foldl_cons, ih]
      congr 1
      exact (w.stack.takes_take rules (.ofMessage m)).depth_eq

theorem level_after (w : Walk) (rules : StackRules) (ms : List String) :
    (w.after rules ms).level = w.level + ((w.trace rules ms).map (·.classified.icon)).count .enteredCall
      - ((w.trace rules ms).map (·.classified.icon)).count .returning := by
  induction ms generalizing w with
  | nil => simp
  | cons m ms ih =>
      have hlevel : (w.step rules m).2.level = w.level + (w.step rules m).1.classified.icon.levelChange := rfl
      rw [after_cons, trace_cons, List.map_cons, List.count_cons, List.count_cons, ih, hlevel,
        StepIcon.levelChange_eq]
      simp only [beq_iff_eq]
      split_ifs <;> push_cast <;> omega

end Walk

/-! ## Palettes do not matter -/

/-- The band is all that a step takes from the palette. -/
theorem CallStack.take_congr (s : CallStack) {rules rules' : StackRules}
    (h : rules'.strictAllocationReturns = rules.strictAllocationReturns) (kind : StepKind) :
    s.take rules' kind = ({ (s.take rules kind).1 with band := s.band rules'.palette }, (s.take rules kind).2) := by
  cases kind with
  | returning function =>
      simp only [take]
      split_ifs <;> rfl
  | returnedAllocatedMemory =>
      simp only [take, h]
      split_ifs <;> rfl
  | _ => rfl

/-- What is found out about a step, but for its band. -/
def TracedStep.unbanded (t : TracedStep) : StepIcon × Int × Option StackMismatch :=
  (t.classified.icon, t.level, t.classified.mismatch)

theorem Walk.trace_congr (w : Walk) {rules rules' : StackRules}
    (h : rules'.strictAllocationReturns = rules.strictAllocationReturns) (ms : List String) :
    (w.trace rules' ms).map TracedStep.unbanded = (w.trace rules ms).map TracedStep.unbanded := by
  induction ms generalizing w with
  | nil => rfl
  | cons m ms ih =>
      have htake := w.stack.take_congr h (.ofMessage m)
      have hstep : (w.step rules' m).1.unbanded = (w.step rules m).1.unbanded := by
        simp only [step, CallStack.classify, htake, TracedStep.unbanded]
      have hnext : (w.step rules' m).2 = (w.step rules m).2 := by
        simp only [step, CallStack.classify, htake]
      rw [trace_cons, trace_cons, List.map_cons, List.map_cons, hstep, hnext, ih]

/-! ## Annotated steps -/

section
variable (report : ReportSummary) (events : List Event) (options : AnnotateOptions)

/-- Whatever an annotated step takes over from the traced one can be read off the trace. -/
theorem map_steps {α : Type} (f : StepAnnotation → α) (g : TracedStep → α)
    (h : ∀ count i event t, f (annotateStep options count i event t) = g t) :
    (annotatePathEvents report events options).steps.map f =
      (Walk.start.trace options.stackRules (events.map (·.msg))).map g := by
  apply List.ext_getElem?
  intro i
  rw [List.getElem?_map, List.getElem?_map, getElem?_steps, Walk.getElem?_trace, List.getElem?_map]
  cases events[i]? with
  | none => rfl
  | some event => exact congrArg some (h _ _ _ _)

/-- The icons before a position are those of the walk to it. -/
theorem take_icons (i : Nat) :
    ((annotatePathEvents report events options).steps.map (·.icon)).take i =
      (Walk.start.trace options.stackRules ((events.map (·.msg)).take i)).map (·.classified.icon) := by
  rw [Walk.trace_take, List.map_take, map_steps report events options _ (·.classified.icon) fun _ _ _ _ => rfl]

theorem depth_stackAt_eq (i : Nat) :
    (stackAt options.stackRules (events.map (·.msg)) i).depth =
      counterDepth (((annotatePathEvents report events options).steps.map (·.icon)).take i) := by
  rw [take_icons, counterDepth, ← stack_after_take]
  exact Walk.depth_after _ _ _

theorem levelAt_eq (i : Nat) :
    levelAt options.stackRules (events.map (·.msg)) i =
      (((annotatePathEvents report events options).steps.map (·.icon)).take i).count .enteredCall
        - (((annotatePathEvents report events options).steps.map (·.icon)).take i).count .returning := by
  rw [take_icons, levelAt, Walk.level_after]
  exact congrArg (· - _) (Int.zero_add _)

/-- An annotated step is drawn in the band before it and at the level after it. -/
theorem icon_band_level_of_getElem?_steps {i : Nat} {s : StepAnnotation}
    (h : (annotatePathEvents report events options).steps[i]? = some s) :
    iconAt? options.stackRules (events.map (·.msg)) i = some s.icon ∧
      s.band = options.palette.color (stackAt options.stackRules (events.map (·.msg)) i).depth ∧
      s.level = levelAt options.stackRules (events.map (·.msg)) (i + 1) := by
  rw [getElem?_steps] at h
  obtain ⟨event, hevent, rfl⟩ := Option.map_eq_some_iff.1 h
  have hmessage : (events.map (·.msg))[i]? = some event.msg := by rw [List.getElem?_map, hevent, Option.map_some]
  refine ⟨?_, ?_, by rw [levelAt, Walk.after_take_succ _ _ hmessage]; rfl⟩
  · rw [iconAt?, classifiedAt?, hmessage, ← stack_after_take]
    rfl
  · rw [← band_stackAt, ← stack_after_take]
    exact (CallStack.takes_take _ _ _).band_eq

end

/-- Icons, levels and mismatches depend on the messages and on strictness alone. -/
theorem icons_levels_mismatches_congr {report report' : ReportSummary} {events events' : List Event}
    {options options' : AnnotateOptions} (hmessages : events'.map (·.msg) = events.map (·.msg))
    (hstrict : options'.strictAllocationReturns = options.strictAllocationReturns) :
    let path := annotatePathEvents report events options
    let path' := annotatePathEvents report' events' options'
    path'.steps.map (·.icon) = path.steps.map (·.icon) ∧ path'.steps.map (·.level) = path.steps.map (·.level) ∧
      path'.mismatches = path.mismatches := by
  have hrules : options'.stackRules.strictAllocationReturns = options.stackRules.strictAllocationReturns := hstrict
  have htrace := Walk.start.trace_congr hrules (events.map (·.msg))
  have hicons := congrArg (List.map (·.1)) htrace
  have hlevels := congrArg (List.map (·.2.1)) htrace
  have hmismatches := congrArg (List.filterMap (·.2.2)) htrace
  rw [List.map_map, List.map_map] at hicons hlevels
  rw [List.filterMap_map, List.filterMap_map] at hmismatches
  refine ⟨?_, ?_, ?_⟩
  · rw [map_steps report' events' options' _ (·.classified.icon) fun _ _ _ _ => rfl,
      map_steps report events options _ (·.classified.icon) fun _ _ _ _ => rfl, hmessages]
    exact hicons
  · rw [map_steps report' events' options' _ (·.level) fun _ _ _ _ => rfl,
      map_steps report events options _ (·.level) fun _ _ _ _ => rfl, hmessages]
    exact hlevels
  · simp only [annotatePathEvents, hmessages]
    exact hmismatches

/-- **Annotated steps follow a counter over their own icons.** -/
theorem steps_refine_counter (report : ReportSummary) (events : List Event) (options : AnnotateOptions) :
    (annotatePathEvents report events options).steps.length = events.length ∧
    (∀ i s, (annotatePathEvents report events options).steps[i]? = some s →
      let icons := (annotatePathEvents report events options).steps.map (·.icon)
      options.palette.colors[counterDepth (icons.take i) % options.palette.colors.length]? = some s.band ∧
        s.level = ((icons.take (i + 1)).count .enteredCall : Int) - (icons.take (i + 1)).count .returning) ∧
    (∀ i, let stack := stackAt options.stackRules (events.map (·.msg)) i
      let icons := (annotatePathEvents report events options).steps.map (·.icon)
      stack.depth = counterDepth (icons.take i) ∧ stack.band options.palette = options.palette.color stack.depth) ∧
    ∀ (report' : ReportSummary) (events' : List Event) (options' : AnnotateOptions),
      events'.map (·.msg) = events.map (·.msg) →
      options'.strictAllocationReturns = options.strictAllocationReturns →
      let path := annotatePathEvents report events options
      let path' := annotatePathEvents report' events' options'
      path'.steps.map (·.icon) = path.steps.map (·.icon) ∧ path'.steps.map (·.level) = path.steps.map (·.level) ∧
        path'.mismatches = path.mismatches := by
  refine ⟨length_steps .., fun i s hs => ?_, fun i => ⟨depth_stackAt_eq .., band_stackAt ..⟩,
    fun report' events' options' => icons_levels_mismatches_congr⟩
  obtain ⟨-, hband, hlevel⟩ := icon_band_level_of_getElem?_steps report events options hs
  rw [depth_stackAt_eq report] at hband
  rw [levelAt_eq report] at hlevel
  exact ⟨by rw [Palette.getElem?_color, hband], hlevel⟩

/-- Two returns after one call: the second leaves the depth at zero and takes the level below zero. -/
theorem steps_refine_counter_unmatched :
    let report : ReportSummary := ⟨1, "m", ""⟩
    let events := ["Calling 'f'", "Entered call from 'g'", "Returning from 'f'",
      "Returned allocated memory"].map Event.bare
    let dark : AnnotateOptions := ⟨⟨["#000000", "#111111"], by simp⟩, "!", false⟩
    let path := annotatePathEvents report events dark
    let icons := path.steps.map (·.icon)
    (∃ s, path.steps[3]? = some s ∧ s.level = -1 ∧
      dark.palette.colors[counterDepth (icons.take 3) % dark.palette.colors.length]? = some s.band ∧
      s.level = ((icons.take 4).count .enteredCall : Int) - (icons.take 4).count .returning) ∧
    dark.strictAllocationReturns = AnnotateOptions.default.strictAllocationReturns ∧
    path.steps.map (·.level) = (annotatePathEvents report events .default).steps.map (·.level) := by
  intro report events dark path icons
  obtain ⟨s, hs⟩ : ∃ s, path.steps[3]? = some s ∧ s.level = -1 := by
    refine ⟨path.steps.get ⟨3, by decide +kernel⟩, ?_, by decide +kernel⟩
    exact List.getElem?_eq_getElem _
  exact ⟨⟨s, hs.1, hs.2, (steps_refine_counter report events dark).2.1 3 s hs.1⟩, rfl,
    ((steps_refine_counter report events .default).2.2.2 report events dark rfl rfl).2.1⟩

end DefectTrail
