import DefectTrail.Proofs.Annotation.NodeSequence
import DefectTrail.Proofs.Step.Mismatches

/-!
# The beginning of a path

A step is annotated from what comes before it. All that it tells about what comes after is whether anything does: the
last step is marked as the result.

* `stackAt_take`, `mismatchAt?_take` : the open calls and the mismatch at a position of the beginning;
* `mismatches_take` : the mismatches of the beginning of a path;
* `DisplayNode.asResult` : the node of a step that nothing follows; `nodes_take` : the nodes of the beginning;
* `annotation_is_causal` : the statement as a whole.
-/

namespace DefectTrail

/-! ## Positions -/

section
variable (rules : StackRules) (messages : List String) {i k : Nat}

theorem stackAt_take (h : i ≤ k) : stackAt rules (messages.take k) i = stackAt rules messages i := by
  rw [stackAt, List.take_take, Nat.min_eq_left h, stackAt]

theorem classifiedAt?_take (h : i < k) : classifiedAt? rules (messages.take k) i = classifiedAt? rules messages i := by
  rw [classifiedAt?, List.getElem?_take_of_lt h, stackAt_take rules messages (Nat.le_of_lt h), classifiedAt?]

theorem mismatchAt?_take (h : i < k) : mismatchAt? rules (messages.take k) i = mismatchAt? rules messages i := by
  rw [mismatchAt?, classifiedAt?_take rules messages h, mismatchAt?]

end

/-! ## Mismatches -/

theorem filter_lt_range (n k : Nat) : (List.range n).filter (· < k) = List.range (min k n) := by
  induction n with
  | zero => rw [Nat.min_zero, List.range_zero, List.filter_nil]
  | succ n ih =>
      rw [List.range_succ, List.filter_append, ih, List.filter_singleton]
      by_cases h : n < k
      · rw [decide_eq_true h, Nat.min_eq_right (Nat.le_of_lt h), Nat.min_eq_right h, List.range_succ]
        rfl
      · rw [decide_eq_false h, Nat.min_eq_left (Nat.not_lt.1 h), Nat.min_eq_left (Nat.le_succ_of_le (Nat.not_lt.1 h))]
        exact List.append_nil _

/-- The mismatches of the beginning of a path. -/
theorem mismatches_take (report : ReportSummary) (events : List Event) (options : AnnotateOptions) (k : Nat) :
    (annotatePathEvents report (events.take k) options).mismatches =
      (annotatePathEvents report events options).mismatches.filter (·.stepIndex < k) := by
  rw [filter_mismatches report events options (fun i => decide (i < k)), filter_lt_range, mismatches_eq,
    List.length_take, List.map_take]
  refine List.filterMap_congr fun i hi => mismatchAt?_take _ _ ?_
  exact Nat.lt_of_lt_of_le (List.mem_range.1 hi) (Nat.min_le_left _ _)

/-! ## Nodes -/

/-- The node with its step marked as the result. -/
def DisplayNode.asResult (n : DisplayNode) : DisplayNode :=
  { n with step := n.step.map fun s => { s with marker := { s.marker with kind := .error } } }

section
variable (report : ReportSummary) (options : AnnotateOptions) {count count' i : Nat} (event : Event) (t : TracedStep)

theorem stepNode_of_eq (h : i + 1 = count) :
    stepNode report options count i event t = (stepNode report options count' i event t).asResult := by
  simp [stepNode, annotateStep, stepMarker, DisplayNode.asResult, h]

theorem stepNode_of_ne (h : i + 1 ≠ count) (h' : i + 1 ≠ count') :
    stepNode report options count i event t = stepNode report options count' i event t := by
  simp [stepNode, annotateStep, stepMarker, h, h']

end

section
variable (report : ReportSummary) (events : List Event) (options : AnnotateOptions) (k : Nat)

/-- The node at a position of the beginning is that of the whole path, but for its mark if something was cut off. -/
theorem getElem?_nodes_take {i : Nat} (h : i < k) :
    (annotatePathEvents report (events.take k) options).nodes[i]? =
      (annotatePathEvents report events options).nodes[i]?.map fun n => if i + 1 = k then n.asResult else n := by
  rw [getElem?_nodes_annotatePathEvents, getElem?_nodes_annotatePathEvents, List.getElem?_take_of_lt h, List.map_take,
    List.take_take, Nat.min_eq_left (Nat.le_of_lt h)]
  cases hevent : events[i]? with
  | none => rfl
  | some event =>
      have hi : i < events.length := (List.getElem?_eq_some_iff.1 hevent).1
      rw [Option.map_some, Option.map_some, Option.map_some, List.length_take, Option.some_inj]
      split
      · exact stepNode_of_eq _ _ _ _ (by omega)
      · by_cases hlast : i + 1 = events.length
        · rw [show min k events.length = events.length by omega]
        · exact stepNode_of_ne _ _ _ _ (by omega) hlast

/-- Nothing but the mark of the last node tells that something was cut off. -/
theorem nodes_take :
    (annotatePathEvents report (events.take k) options).nodes =
      if 0 < k ∧ k < events.length then
        ((annotatePathEvents report events options).nodes.take k).modify (k - 1) DisplayNode.asResult
      else (annotatePathEvents report events options).nodes.take k := by
  split
  · next hk =>
      apply List.ext_getElem?
      intro i
      rw [List.getElem?_modify]
      by_cases hi : i < k
      · rw [getElem?_nodes_take report events options k hi, List.getElem?_take_of_lt hi]
        have hlast : i + 1 = k ↔ k - 1 = i := by omega
        simp only [hlast]
        rfl
      · rw [List.getElem?_take_eq_none (Nat.not_lt.1 hi), List.getElem?_eq_none]
        · rfl
        · rw [length_nodes_annotatePathEvents, List.length_take]
          omega
  · next hk =>
      rcases Nat.eq_zero_or_pos k with rfl | hpos
      · rfl
      · have hlength : events.length ≤ k := Nat.not_lt.1 fun hlt => hk ⟨hpos, hlt⟩
        rw [List.take_of_length_le hlength, List.take_of_length_le]
        rwa [length_nodes_annotatePathEvents]

/-- A step that others follow is not marked as the result. -/
theorem marker_of_not_last {i : Nat} (h : i + 1 < events.length) :
    ∃ n s, (annotatePathEvents report events options).nodes[i]? = some n ∧ n.step = some s ∧
      (s.marker.kind = .fixit ∨ s.marker.kind = .info) := by
  have hevent : events[i]? = some events[i] := List.getElem?_eq_getElem (Nat.lt_of_succ_lt h)
  have hnode := getElem?_nodes_annotatePathEvents report events options i
  rw [hevent, Option.map_some] at hnode
  refine ⟨_, _, hnode, rfl, ?_⟩
  rw [annotateStep, stepMarker_eq, if_neg (Nat.ne_of_lt h)]
  split
  · exact Or.inl rfl
  · exact Or.inr rfl

end

/-- What a node tells but for the mark of its step. -/
def DisplayNode.unmarked (n : DisplayNode) :
    String × String × NodeKind × Option Datum × Option (Event × Nat × StepIcon × String × Int) :=
  (n.id, n.name, n.kind, n.datum, n.step.map fun s => (s.event, s.marker.index, s.icon, s.band, s.level))

theorem DisplayNode.unmarked_asResult (n : DisplayNode) : n.asResult.unmarked = n.unmarked := by
  obtain ⟨id, name, kind, datum, step⟩ := n
  cases step <;> rfl

theorem DisplayNode.map_unmarked_modify (nodes : List DisplayNode) (i : Nat) :
    (nodes.modify i asResult).map unmarked = nodes.map unmarked := by
  apply List.ext_getElem?
  intro j
  rw [List.getElem?_map, List.getElem?_map, List.getElem?_modify]
  cases nodes[j]? with
  | none => rfl
  | some n =>
      by_cases hij : i = j
      · simp [hij, unmarked_asResult]
      · simp [hij]

/-- **A step is annotated from what comes before it, but for the mark of the last.** -/
theorem annotation_is_causal (report : ReportSummary) (events : List Event) (options : AnnotateOptions) :
    let path := annotatePathEvents report events options
    (∀ k ≤ events.length,
      let beginning := annotatePathEvents report (events.take k) options
      beginning.nodes =
          (if 0 < k ∧ k < events.length then (path.nodes.take k).modify (k - 1) DisplayNode.asResult
          else path.nodes.take k) ∧
        (0 < k → k < events.length → ∃ n s, path.nodes[k - 1]? = some n ∧ n.step = some s ∧
          (s.marker.kind = .fixit ∨ s.marker.kind = .info)) ∧
        beginning.mismatches = path.mismatches.filter (·.stepIndex < k)) ∧
    ∀ more,
      let longer := annotatePathEvents report (events ++ more) options
      (longer.nodes.take events.length).map (·.unmarked) = path.nodes.map (·.unmarked) ∧
        longer.mismatches.filter (·.stepIndex < events.length) = path.mismatches := by
  intro path
  refine ⟨fun k _ => ⟨nodes_take .., fun hpos hlt => ?_, mismatches_take ..⟩, fun more => ?_⟩
  · exact marker_of_not_last report events options (by omega)
  · have hnodes := nodes_take report (events ++ more) options events.length
    have hmismatches := mismatches_take report (events ++ more) options events.length
    rw [List.take_left] at hnodes hmismatches
    refine ⟨?_, hmismatches.symm⟩
    show _ = (annotatePathEvents report events options).nodes.map _
    rw [hnodes]
    split
    · rw [DisplayNode.map_unmarked_modify]
    · rfl

/-- The first two steps of a path whose last step is a return that does not fit. -/
theorem annotation_is_causal_cut_off :
    let events := ["Calling 'f'", "use p (fixit)", "Returning from 'g'"].map Event.bare
    let path := annotatePathEvents ⟨1, "m", ""⟩ events .default
    let beginning := annotatePathEvents ⟨1, "m", ""⟩ (events.take 2) .default
    2 ≤ events.length ∧ beginning.nodes = (path.nodes.take 2).modify 1 DisplayNode.asResult ∧
      (path.nodes[1]?.bind (·.step)).map (·.marker.kind) = some .fixit ∧
      path.mismatches = [⟨2, some "g", some "f"⟩] ∧ beginning.mismatches = [] := by
  intro events path beginning
  obtain ⟨hcut, -⟩ := annotation_is_causal ⟨1, "m", ""⟩ events .default
  obtain ⟨hnodes, -, hmismatches⟩ := hcut 2 (by decide)
  exact ⟨by decide, hnodes, by decide +kernel, by decide +kernel, hmismatches.trans (by decide +kernel)⟩

end DefectTrail
