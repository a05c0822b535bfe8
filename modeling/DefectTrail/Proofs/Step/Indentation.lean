import DefectTrail.Proofs.Step.DepthCounter

/-!
# Indentation follows the call depth

On a path on which every call is entered by the very next step, read with strict rules:

* `depth_eq_levelAt_add` : level and depth agree between any two steps, except that the depth is one ahead right before
  an entry;
* `depth_eq_levelAt_succ_add` : the depth before a step is the level it is drawn at, one more for a return;
* `levels_agree_with_depth` : the statement as a whole, about an annotated report and its figures.
-/

namespace DefectTrail

/-- The step at a position calls a function. -/
def CallsAt (messages : List String) (i : Nat) : Prop := ∃ function, kindAt? messages i = some (.calling function)

/-- The step at a position enters a call. -/
def EntersAt (messages : List String) (i : Nat) : Prop := kindAt? messages i = some .enteredCall

/-- Each call is entered by the very next step, and nothing else is entered. -/
def EntersEveryCall (messages : List String) : Prop :=
  ¬ EntersAt messages 0 ∧ ∀ i, CallsAt messages i ↔ EntersAt messages (i + 1)

instance (messages : List String) (i : Nat) : Decidable (EntersAt messages i) :=
  inferInstanceAs (Decidable (kindAt? messages i = some .enteredCall))

instance (messages : List String) (i : Nat) : Decidable (CallsAt messages i) :=
  match h : kindAt? messages i with
  | some (.calling function) => .isTrue ⟨function, h⟩
  | some .enteredCall | some (.returning _) | some .returnedAllocatedMemory | some .assumingCondition | some .assuming
  | some .enteringLoopBody | some .loopBodyExecuted | some .loopBack | some .plain | none =>
    .isFalse fun ⟨_, hcalls⟩ => by rw [h] at hcalls; cases hcalls

theorem not_entersAt_of_none {messages : List String} {i : Nat} (h : messages[i]? = none) : ¬ EntersAt messages i := by
  simp [EntersAt, kindAt?, h]

theorem not_callsAt_of_none {messages : List String} {i : Nat} (h : messages[i]? = none) : ¬ CallsAt messages i := by
  simp [CallsAt, kindAt?, h]

/-- Nothing is called or entered beyond the end, so finitely many steps have to be looked at. -/
theorem entersEveryCall_iff {messages : List String} :
    EntersEveryCall messages ↔
      ¬ EntersAt messages 0 ∧ ∀ i < messages.length, CallsAt messages i ↔ EntersAt messages (i + 1) := by
  refine and_congr_right fun _ => ⟨fun h i _ => h i, fun h i => ?_⟩
  by_cases hi : i < messages.length
  · exact h i hi
  · have hle : messages.length ≤ i := Nat.le_of_not_lt hi
    exact iff_of_false (not_callsAt_of_none (List.getElem?_eq_none hle))
      (not_entersAt_of_none (List.getElem?_eq_none (Nat.le_succ_of_le hle)))

instance (messages : List String) : Decidable (EntersEveryCall messages) := decidable_of_iff _ entersEveryCall_iff.symm

/-! ## What an icon says about the step -/

namespace CallStack

variable {s next : CallStack} {rules : StackRules} {kind : StepKind} {c : Classified}

theorem Takes.icon_eq_calling_iff (h : s.Takes rules kind c next) :
    c.icon = .calling ↔ ∃ function, kind = .calling function := by
  cases h with
  | opens function => simp
  | closes kind function rest hopen hkind => rcases hkind with rfl | rfl <;> simp
  | passes kind icon hkind => cases kind <;> cases hkind <;> simp
  | _ => simp

theorem Takes.icon_eq_enteredCall_iff (h : s.Takes rules kind c next) :
    c.icon = .enteredCall ↔ kind = .enteredCall := by
  cases h with
  | closes kind function rest hopen hkind => rcases hkind with rfl | rfl <;> simp
  | passes kind icon hkind => cases kind <;> cases hkind <;> simp
  | _ => simp

/-- Strict rules accept no return without an open call. -/
theorem Takes.depth_pos (h : s.Takes rules kind c next) (hstrict : rules.strictAllocationReturns = true)
    (hicon : c.icon = .returning) : 0 < s.depth := by
  cases h with
  | opens function => cases hicon
  | closes kind function rest hopen hkind =>
      rw [depth, hopen]
      exact Nat.succ_pos _
  | closesNothing hopen hlax =>
      rw [hstrict] at hlax
      cases hlax
  | refusesReturn function htop => cases hicon
  | refusesRelease hopen hstrict => cases hicon
  | passes kind icon hkind => exact absurd hicon (StepKind.ne_calling_of_quietIcon? hkind).2

end CallStack

section
variable {rules : StackRules} {messages : List String}

/-- The changes that a step makes, read off its icon. -/
theorem changes_of_icon (hstrict : rules.strictAllocationReturns = true) {i : Nat} (hi : i < messages.length) :
    ∃ icon, iconAt? rules messages i = some icon ∧ (CallsAt messages i ↔ icon = .calling) ∧
      (EntersAt messages i ↔ icon = .enteredCall) ∧
      (stackAt rules messages (i + 1)).depth = icon.countDepth (stackAt rules messages i).depth ∧
      levelAt rules messages (i + 1) = levelAt rules messages i + icon.levelChange ∧
      (icon = .returning → 0 < (stackAt rules messages i).depth) := by
  have hm : messages[i]? = some messages[i] := List.getElem?_eq_getElem hi
  obtain ⟨c, next, hc, hnext, htakes⟩ := takes_at rules hm
  have hkind : kindAt? messages i = some (.ofMessage messages[i]) := by rw [kindAt?, hm, Option.map_some]
  refine ⟨c.icon, by rw [iconAt?, hc, Option.map_some], ?_, ?_, ?_, levelAt_succ hc, htakes.depth_pos hstrict⟩
  · rw [htakes.icon_eq_calling_iff, CallsAt, hkind]
    simp only [Option.some_inj]
  · rw [htakes.icon_eq_enteredCall_iff, EntersAt, hkind, Option.some_inj]
  · rw [hnext, htakes.depth_eq]

/-! ## Depth and level -/

/-- The level lags behind the depth between a call and its entry, and only there. -/
theorem depth_eq_levelAt_add (hstrict : rules.strictAllocationReturns = true) (h : EntersEveryCall messages)
    (i : Nat) :
    ((stackAt rules messages i).depth : Int) = levelAt rules messages i + if EntersAt messages i then 1 else 0 := by
  induction i with
  | zero => rw [if_neg h.1]; rfl
  | succ i ih =>
      by_cases hi : i < messages.length
      · obtain ⟨icon, -, hcalls, henters, hdepth, hlevel, hpos⟩ := changes_of_icon hstrict hi
        simp only [← h.2 i, hcalls, henters, hdepth, hlevel] at ih ⊢
        cases icon with
        | calling | enteredCall =>
            simp only [StepIcon.countDepth, StepIcon.levelChange, reduceCtorEq, if_false, if_true] at ih ⊢
            omega
        | returning =>
            have hdepth_pos := hpos rfl
            simp only [StepIcon.countDepth, StepIcon.levelChange, reduceCtorEq, if_false] at ih ⊢
            omega
        | _ => simpa only [StepIcon.countDepth, StepIcon.levelChange, reduceCtorEq, if_false, Int.add_zero] using ih
      · have hnone : messages[i]? = none := List.getElem?_eq_none (Nat.le_of_not_lt hi)
        rw [if_neg (not_entersAt_of_none hnone)] at ih
        rw [stackAt_succ_of_none hnone, levelAt_succ_of_none hnone,
          if_neg (mt (h.2 i).2 (not_callsAt_of_none hnone)), ih]

/-- A step is drawn at the depth before it, a return one level above it. -/
theorem depth_eq_levelAt_succ_add (hstrict : rules.strictAllocationReturns = true) (h : EntersEveryCall messages)
    {i : Nat} (hi : i < messages.length) :
    ((stackAt rules messages i).depth : Int) =
      levelAt rules messages (i + 1) + if iconAt? rules messages i = some .returning then 1 else 0 := by
  obtain ⟨icon, hicon, -, henters, -, hlevel, -⟩ := changes_of_icon hstrict hi
  have hdepth := depth_eq_levelAt_add hstrict h i
  simp only [henters] at hdepth
  rw [hdepth, hlevel, hicon]
  cases icon with
  | returning =>
      simp only [StepIcon.levelChange, reduceCtorEq, if_false, if_true]
      omega
  | _ => simp [StepIcon.levelChange]

theorem exists_depth_eq_levelAt (hstrict : rules.strictAllocationReturns = true) (h : EntersEveryCall messages)
    {i : Nat} (hi : i ≤ messages.length) :
    ∃ k ≤ messages.length, ((stackAt rules messages k).depth : Int) = levelAt rules messages i := by
  by_cases henters : EntersAt messages i
  · cases i with
    | zero => exact absurd henters h.1
    | succ k =>
        obtain ⟨icon, hicon, hcalls, -⟩ := changes_of_icon hstrict (Nat.lt_of_succ_le hi)
        have hcalling : icon = .calling := hcalls.1 ((h.2 k).2 henters)
        have hdepth := depth_eq_levelAt_succ_add hstrict h (Nat.lt_of_succ_le hi)
        rw [hicon, hcalling, if_neg (by decide), Int.add_zero] at hdepth
        exact ⟨k, Nat.le_of_succ_le hi, hdepth⟩
  · have hdepth := depth_eq_levelAt_add hstrict h i
    rw [if_neg henters, Int.add_zero] at hdepth
    exact ⟨i, hi, hdepth⟩

theorem exists_levelAt_eq_depth (hstrict : rules.strictAllocationReturns = true) (h : EntersEveryCall messages)
    {i : Nat} (hi : i ≤ messages.length) :
    ∃ k ≤ messages.length, levelAt rules messages k = (stackAt rules messages i).depth := by
  by_cases henters : EntersAt messages i
  · have hlt : i < messages.length := by
      by_contra hge
      exact not_entersAt_of_none (List.getElem?_eq_none (Nat.le_of_not_lt hge)) henters
    obtain ⟨icon, hicon, -, henters', -⟩ := changes_of_icon hstrict hlt
    have hdepth := depth_eq_levelAt_succ_add hstrict h hlt
    rw [hicon, henters'.1 henters, if_neg (by decide), Int.add_zero] at hdepth
    exact ⟨i + 1, hlt, hdepth.symm⟩
  · have hdepth := depth_eq_levelAt_add hstrict h i
    rw [if_neg henters, Int.add_zero] at hdepth
    exact ⟨i, hi, hdepth.symm⟩

end

/-! ## The figures of a report -/

section
variable (b : Bundle) (options : AnnotateOptions)

theorem map_level_steps :
    (b.annotate options).value.steps.map (·.level) =
      (List.range b.details.pathEvents.length).map fun i =>
        levelAt options.stackRules (b.details.pathEvents.map (·.msg)) (i + 1) := by
  rw [Bundle.steps_annotate]
  apply List.ext_getElem
  · rw [List.length_map, List.length_map, length_steps, List.length_range]
  · intro i hi _
    rw [List.length_map] at hi
    rw [List.getElem_map, List.getElem_map, List.getElem_range]
    exact (icon_band_level_of_getElem?_steps _ _ _ (List.getElem?_eq_getElem hi)).2.2

theorem finalLevel_eq :
    (b.annotate options).value.summary.finalLevel =
      levelAt options.stackRules (b.details.pathEvents.map (·.msg)) b.details.pathEvents.length := by
  simp only [AnnotatedReport.summary, map_level_steps]
  cases b.details.pathEvents.length with
  | zero => rfl
  | succ n => rw [List.range_succ, List.map_append, List.map_singleton, List.getLast?_concat, Option.getD_some]

theorem maxLevel_isGreatest :
    let levels := levelAt options.stackRules (b.details.pathEvents.map (·.msg))
    (∃ i ≤ b.details.pathEvents.length, (b.annotate options).value.summary.maxLevel = levels i) ∧
      ∀ i < b.details.pathEvents.length, levels (i + 1) ≤ (b.annotate options).value.summary.maxLevel := by
  intro levels
  simp only [AnnotatedReport.summary, map_level_steps]
  cases hmax : ((List.range b.details.pathEvents.length).map fun i => levels (i + 1)).max? with
  | none =>
      rw [List.max?_eq_none_iff, List.map_eq_nil_iff, List.range_eq_nil] at hmax
      rw [hmax]
      exact ⟨⟨0, Nat.le_refl 0, rfl⟩, fun i hi => absurd hi (Nat.not_lt_zero i)⟩
  | some greatest =>
      obtain ⟨hmem, hgreatest⟩ := List.max?_eq_some_iff.1 hmax
      obtain ⟨i, hi, hlevel⟩ := List.mem_map.1 hmem
      refine ⟨⟨i + 1, List.mem_range.1 hi, hlevel.symm⟩, fun k hk => hgreatest _ ?_⟩
      exact List.mem_map.2 ⟨k, List.mem_range.2 hk, rfl⟩

end

section
variable {b : Bundle} {options : AnnotateOptions}

theorem length_messages (b : Bundle) : (b.details.pathEvents.map (·.msg)).length = b.details.pathEvents.length :=
  List.length_map _

theorem step_agrees_with_depth (hstrict : options.strictAllocationReturns = true)
    (hcalls : EntersEveryCall (b.details.pathEvents.map (·.msg))) {i : Nat} {s : StepAnnotation}
    (hs : (b.annotate options).value.steps[i]? = some s) :
    let colors := options.palette.colors
    let depthAt := fun i => (stackAt options.stackRules (b.details.pathEvents.map (·.msg)) i).depth
    0 ≤ s.level ∧
      (s.icon ≠ .returning → colors[s.level.toNat % colors.length]? = some s.band) ∧
      (s.icon = .returning → colors[(s.level + 1).toNat % colors.length]? = some s.band) ∧
      (s.icon ≠ .calling → s.level = (depthAt (i + 1) : Int)) ∧
      (s.icon = .calling → s.level = (depthAt i : Int)) := by
  intro colors depthAt
  have hrules : options.stackRules.strictAllocationReturns = true := hstrict
  rw [Bundle.steps_annotate] at hs
  have hi : i < (b.details.pathEvents.map (·.msg)).length := by
    rw [length_messages, ← length_steps b.report b.details.pathEvents options]
    exact (List.getElem?_eq_some_iff.1 hs).1
  obtain ⟨hicon, hband, hlevel⟩ := icon_band_level_of_getElem?_steps _ _ _ hs
  obtain ⟨icon, hicon', hcalls', -⟩ := changes_of_icon hrules hi
  obtain rfl : s.icon = icon := Option.some.inj (hicon.symm.trans hicon')
  have hbefore := depth_eq_levelAt_succ_add hrules hcalls hi
  have hafter := depth_eq_levelAt_add hrules hcalls (i + 1)
  obtain ⟨j, -, hnonneg⟩ := exists_depth_eq_levelAt hrules hcalls (Nat.succ_le_of_lt hi)
  simp only [← hcalls.2 i, hcalls'] at hafter
  simp only [hicon, Option.some_inj] at hbefore
  rw [← hlevel] at hbefore hafter hnonneg
  refine ⟨hnonneg ▸ Int.natCast_nonneg _, fun h => ?_, fun h => ?_, fun h => ?_, fun h => ?_⟩
  · rw [if_neg h, Int.add_zero] at hbefore
    rw [← hbefore, Int.toNat_natCast, Palette.getElem?_color, hband]
  · rw [if_pos h] at hbefore
    rw [← hbefore, Int.toNat_natCast, Palette.getElem?_color, hband]
  · rw [if_neg h, Int.add_zero] at hafter
    exact hafter.symm
  · rw [if_neg (by rw [h]; decide), Int.add_zero] at hbefore
    exact hbefore.symm

theorem maxLevel_eq_max_depth (hstrict : options.strictAllocationReturns = true)
    (hcalls : EntersEveryCall (b.details.pathEvents.map (·.msg))) :
    let depthAt := fun i => (stackAt options.stackRules (b.details.pathEvents.map (·.msg)) i).depth
    (∃ i ≤ b.details.pathEvents.length, (b.annotate options).value.summary.maxLevel = (depthAt i : Int)) ∧
      ∀ i ≤ b.details.pathEvents.length, (depthAt i : Int) ≤ (b.annotate options).value.summary.maxLevel := by
  intro depthAt
  have hrules : options.stackRules.strictAllocationReturns = true := hstrict
  obtain ⟨⟨top, htop, hmax⟩, hmax_le⟩ := maxLevel_isGreatest b options
  rw [← length_messages] at htop
  obtain ⟨k, hk, hdepth⟩ := exists_depth_eq_levelAt hrules hcalls htop
  have hmax_depth : (b.annotate options).value.summary.maxLevel = depthAt k := hmax.trans hdepth.symm
  refine ⟨⟨k, length_messages b ▸ hk, hmax_depth⟩, fun i hi => ?_⟩
  rw [← length_messages] at hi
  obtain ⟨j, hj, hlevel⟩ := exists_levelAt_eq_depth hrules hcalls hi
  rw [← hlevel]
  cases j with
  | zero =>
      rw [hmax_depth]
      exact Int.natCast_nonneg _
  | succ j => exact hmax_le j (length_messages b ▸ hj)

theorem finalLevel_eq_depth (hstrict : options.strictAllocationReturns = true)
    (hcalls : EntersEveryCall (b.details.pathEvents.map (·.msg))) :
    (b.annotate options).value.summary.finalLevel =
      (stackAt options.stackRules (b.details.pathEvents.map (·.msg)) b.details.pathEvents.length).depth := by
  have hrules : options.stackRules.strictAllocationReturns = true := hstrict
  have hlast := depth_eq_levelAt_add hrules hcalls b.details.pathEvents.length
  have hend : (b.details.pathEvents.map (·.msg))[b.details.pathEvents.length]? = none :=
    List.getElem?_eq_none (Nat.le_of_eq (length_messages b))
  rw [if_neg (not_entersAt_of_none hend), Int.add_zero] at hlast
  rw [finalLevel_eq, hlast]

end

/-- **Indentation and bands agree on an entered path.** -/
theorem levels_agree_with_depth (b : Bundle) (options : AnnotateOptions)
    (hstrict : options.strictAllocationReturns = true)
    (hcalls : EntersEveryCall (b.details.pathEvents.map (·.msg))) :
    let report := (b.annotate options).value
    let colors := options.palette.colors
    let depthAt := fun i => (stackAt options.stackRules (b.details.pathEvents.map (·.msg)) i).depth
    report.steps.length = b.details.pathEvents.length ∧
    (∀ i s, report.steps[i]? = some s →
      0 ≤ s.level ∧
      (s.icon ≠ .returning → colors[s.level.toNat % colors.length]? = some s.band) ∧
      (s.icon = .returning → colors[(s.level + 1).toNat % colors.length]? = some s.band) ∧
      (s.icon ≠ .calling → s.level = (depthAt (i + 1) : Int)) ∧
      (s.icon = .calling → s.level = (depthAt i : Int))) ∧
    (∃ i ≤ b.details.pathEvents.length, report.summary.maxLevel = (depthAt i : Int)) ∧
    (∀ i ≤ b.details.pathEvents.length, (depthAt i : Int) ≤ report.summary.maxLevel) ∧
    report.summary.finalLevel = (depthAt b.details.pathEvents.length : Int) :=
  ⟨by rw [Bundle.steps_annotate, length_steps], fun _ _ hs => step_agrees_with_depth hstrict hcalls hs,
    (maxLevel_eq_max_depth hstrict hcalls).1, (maxLevel_eq_max_depth hstrict hcalls).2,
    finalLevel_eq_depth hstrict hcalls⟩

/-- A call that is entered, a return to another function, and two allocation returns, of which one closes the call. -/
theorem levels_agree_with_depth_malformed :
    let events := ["Calling 'f'", "Entered call from 'm'", "Returning from 'g'", "Returned allocated memory",
      "Returned allocated memory"].map Event.bare
    let b : Bundle := ⟨⟨1, "m", ""⟩, ⟨[], events⟩⟩
    let options : AnnotateOptions := ⟨⟨["#000000", "#111111"], by simp⟩, "!", true⟩
    options.strictAllocationReturns = true ∧ EntersEveryCall (b.details.pathEvents.map (·.msg)) ∧
      (b.annotate options).value.summary.finalLevel = 0 ∧
      ∃ s, (b.annotate options).value.steps[2]? = some s ∧
        options.palette.colors[s.level.toNat % 2]? = some s.band := by
  intro events b options
  have hcalls : EntersEveryCall (b.details.pathEvents.map (·.msg)) := by decide +kernel
  obtain ⟨-, hsteps, -, -, hfinal⟩ := levels_agree_with_depth b options rfl hcalls
  refine ⟨rfl, hcalls, hfinal, (b.annotate options).value.steps.get ⟨2, by decide +kernel⟩, ?_, ?_⟩
  · exact List.getElem?_eq_getElem _
  exact (hsteps 2 _ (List.getElem?_eq_getElem _)).2.1 (by decide +kernel)

end DefectTrail
