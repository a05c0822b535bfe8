import DefectTrail.Proofs.Step.Mismatches

/-!
# How far the numbers of a path go

A step changes the level by one at most, so the level stays within the number of steps taken.

* `levelAt_bounds` : the level before a position;
* `number_and_level_of_getElem?_steps` : number and level of an annotated step;
* `stepIndex_lt_of_mem_mismatches` : a mismatch carries a position of the path.
-/

namespace DefectTrail

theorem StepIcon.levelChange_bounds (icon : StepIcon) : -1 ≤ icon.levelChange ∧ icon.levelChange ≤ 1 := by
  cases icon <;> decide

theorem levelAt_bounds (rules : StackRules) (messages : List String) (i : Nat) :
    -(i : Int) ≤ levelAt rules messages i ∧ levelAt rules messages i ≤ i := by
  induction i with
  | zero => exact ⟨Int.le_refl 0, Int.le_refl 0⟩
  | succ i ih =>
      obtain ⟨hlo, hhi⟩ := ih
      cases hm : messages[i]? with
      | none =>
          rw [levelAt_succ_of_none hm]
          omega
      | some m =>
          obtain ⟨c, -, hc, -, -⟩ := takes_at rules hm
          obtain ⟨hdown, hup⟩ := c.icon.levelChange_bounds
          rw [levelAt_succ hc]
          omega

section
variable (report : ReportSummary) (events : List Event) (options : AnnotateOptions)

theorem number_and_level_of_getElem?_steps {i : Nat} {s : StepAnnotation}
    (h : (annotatePathEvents report events options).steps[i]? = some s) :
    i < events.length ∧ s.marker.index = i + 1 ∧ -((i + 1 : Nat) : Int) ≤ s.level ∧ s.level ≤ ((i + 1 : Nat) : Int) := by
  have hi : i < events.length := by
    obtain ⟨hi, -⟩ := List.getElem?_eq_some_iff.1 h
    rw [length_steps] at hi
    exact hi
  obtain ⟨-, -, hlevel⟩ := icon_band_level_of_getElem?_steps report events options h
  obtain ⟨hlo, hhi⟩ := levelAt_bounds options.stackRules (events.map (·.msg)) (i + 1)
  rw [← hlevel] at hlo hhi
  refine ⟨hi, ?_, hlo, hhi⟩
  rw [getElem?_steps, List.getElem?_eq_getElem hi] at h
  obtain rfl := Option.some.inj h
  rfl

theorem stepIndex_lt_of_mem_mismatches {m : StackMismatch}
    (h : m ∈ (annotatePathEvents report events options).mismatches) : m.stepIndex < events.length := by
  rw [mismatches_eq, List.mem_filterMap] at h
  obtain ⟨i, hi, hm⟩ := h
  rw [stepIndex_of_mismatchAt? hm]
  exact List.mem_range.1 hi

end

end DefectTrail
