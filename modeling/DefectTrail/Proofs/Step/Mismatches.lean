import DefectTrail.Proofs.Step.DepthCounter
import DefectTrail.Proofs.Step.Pairing

/-!
# The mismatches of a path, by position

* `stepIndex_of_mismatchAt?` : a mismatch carries the position of its step;
* `mismatches_eq` : the mismatches of an annotated path are those of its positions, in order;
* `filter_mismatches` : so they are chosen by position as the positions are;
* `filter_stepIndex_mismatches` : those that carry a position are the one found there, if there is one.
-/

namespace DefectTrail

section
variable {rules : StackRules} {messages : List String}

theorem stepIndex_of_mismatchAt? {i : Nat} {x : StackMismatch} (h : mismatchAt? rules messages i = some x) :
    x.stepIndex = i := by
  rcases mismatchAt?_eq_some_iff.1 h with ⟨function, -, -, rfl⟩ | ⟨-, -, -, rfl⟩ <;> rfl

theorem mismatchAt?_of_length_le {i : Nat} (h : messages.length ≤ i) : mismatchAt? rules messages i = none := by
  rw [mismatchAt?, classifiedAt?_of_none (List.getElem?_eq_none h), Option.bind_none]

theorem map_mismatch_trace (rules : StackRules) (messages : List String) :
    (Walk.start.trace rules messages).map (·.classified.mismatch) =
      (List.range messages.length).map (mismatchAt? rules messages) := by
  apply List.ext_getElem
  · rw [List.length_map, List.length_map, Walk.length_trace, List.length_range]
  · intro i hi _
    rw [List.length_map, Walk.length_trace] at hi
    have hm : messages[i]? = some messages[i] := List.getElem?_eq_getElem hi
    apply Option.some_inj.1
    rw [← List.getElem?_eq_getElem, List.getElem?_map, Walk.getElem?_trace, List.getElem_map, List.getElem_range,
      mismatchAt?, classifiedAt?, hm, ← stack_after_take]
    rfl

end

section
variable (report : ReportSummary) (events : List Event) (options : AnnotateOptions)

theorem mismatches_eq :
    (annotatePathEvents report events options).mismatches =
      (List.range events.length).filterMap (mismatchAt? options.stackRules (events.map (·.msg))) := by
  have hmap := congrArg (List.filterMap id) (map_mismatch_trace options.stackRules (events.map (·.msg)))
  rw [List.filterMap_map, List.filterMap_map, List.length_map] at hmap
  exact hmap

/-- Mismatches are chosen by position as the positions are. -/
theorem filter_mismatches (p : Nat → Bool) :
    (annotatePathEvents report events options).mismatches.filter (fun x => p x.stepIndex) =
      ((List.range events.length).filter p).filterMap (mismatchAt? options.stackRules (events.map (·.msg))) := by
  have hpoint : ∀ i, (mismatchAt? options.stackRules (events.map (·.msg)) i).filter (fun x => p x.stepIndex) =
      if p i = true then mismatchAt? options.stackRules (events.map (·.msg)) i else none := by
    intro i
    cases hi : mismatchAt? options.stackRules (events.map (·.msg)) i with
    | none => rw [Option.filter_none, ite_self]
    | some x => rw [Option.filter_some, stepIndex_of_mismatchAt? hi]
  rw [mismatches_eq, List.filter_filterMap]
  simp only [hpoint]
  rw [← List.filterMap_filter]

theorem filter_stepIndex_mismatches (i : Nat) :
    (annotatePathEvents report events options).mismatches.filter (fun x => x.stepIndex = i) =
      (mismatchAt? options.stackRules (events.map (·.msg)) i).toList := by
  rw [filter_mismatches report events options (fun j => decide (j = i)), List.filter_eq, List.count_range]
  split_ifs with hi
  · rw [List.replicate_one, List.filterMap_cons]
    cases mismatchAt? options.stackRules (events.map (·.msg)) i <;> rfl
  · have hlength : (events.map (·.msg)).length ≤ i := by
      rw [List.length_map]
      omega
    rw [mismatchAt?_of_length_le hlength]
    rfl

end

end DefectTrail
