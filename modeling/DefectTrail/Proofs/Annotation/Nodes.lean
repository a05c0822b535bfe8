import DefectTrail.Annotation

/-!
# The nodes of an annotated report

What holds of all nodes is said of the headers and members of the groups, of the node of the defect and of those of
the path.

* `DatumGroup.mem_members_iff`, `DatumGroup.forall_mem_nodes_iff` : the nodes of a group;
* `exists_step_of_mem_annotatePathEvents` : the nodes of a path;
* `Bundle.forall_mem_nodes_iff` : the nodes of a report.
-/

namespace DefectTrail

/-! ## Groups -/

namespace DatumGroup

/-- The groups that are shown. -/
def all : List DatumGroup := [expansions, notes]

variable {g : DatumGroup} {report : ReportSummary} {data : List Datum}

theorem mem_members_iff {d : Datum} : d ∈ g.members data ↔ d ∈ data ∧ d.kind = g.datumKind := by
  rw [members, List.mem_mergeSort, List.mem_filter, decide_eq_true_eq]

theorem nodes_eq (g : DatumGroup) (report : ReportSummary) (data : List Datum) :
    g.nodes report data =
      if g.members data = [] then []
      else .plain (report.nodeId g.header) g.title g.header :: (g.members data).mapIdx (g.itemNode report) := by
  unfold nodes
  split
  · next hnone => rw [if_pos hnone]
  · next hsome => rw [if_neg hsome]

theorem forall_mem_nodes_iff {P : DisplayNode → Prop} :
    (∀ n ∈ g.nodes report data, P n) ↔
      (g.members data ≠ [] → P (.plain (report.nodeId g.header) g.title g.header)) ∧
        ∀ i (h : i < (g.members data).length), P (g.itemNode report i (g.members data)[i]) := by
  rw [nodes_eq]
  split
  · next hnone =>
      rw [hnone]
      simp
  · next hsome =>
      rw [List.forall_mem_cons, imp_iff_right hsome]
      refine and_congr_right' ⟨fun h i hi => h _ (List.mem_mapIdx.2 ⟨i, hi, rfl⟩), fun h n hn => ?_⟩
      obtain ⟨i, hi, rfl⟩ := List.mem_mapIdx.1 hn
      exact h i hi

end DatumGroup

theorem forall_mem_dataNodes_iff {report : ReportSummary} {data : List Datum} {P : DisplayNode → Prop} :
    (∀ n ∈ dataNodes report data, P n) ↔ ∀ g ∈ DatumGroup.all, ∀ n ∈ g.nodes report data, P n := by
  rw [dataNodes, List.forall_mem_append, DatumGroup.all, List.forall_mem_cons, List.forall_mem_singleton]

/-! ## Paths -/

section
variable {report : ReportSummary} {events : List Event} {options : AnnotateOptions}

theorem exists_step_of_mem_annotatePathEvents {n : DisplayNode}
    (h : n ∈ (annotatePathEvents report events options).nodes) :
    ∃ s ∈ (annotatePathEvents report events options).steps, n.step = some s ∧ n.kind = .step ∧ n.datum = none := by
  have hstep : ∃ s, n.step = some s ∧ n.kind = .step ∧ n.datum = none := by
    obtain ⟨i, hi, rfl⟩ := List.mem_mapIdx.1 h
    exact ⟨_, rfl, rfl, rfl⟩
  obtain ⟨s, hs, hkind⟩ := hstep
  exact ⟨s, List.mem_filterMap.2 ⟨n, h, hs⟩, hs, hkind⟩

/-- The steps carry the events, in their order. -/
theorem map_event_steps (report : ReportSummary) (events : List Event) (options : AnnotateOptions) :
    (annotatePathEvents report events options).steps.map (·.event) = events := by
  apply List.ext_getElem?
  intro i
  rw [List.getElem?_map, getElem?_steps]
  cases events[i]? <;> rfl

end

/-! ## Reports -/

theorem Bundle.forall_mem_nodes_iff {b : Bundle} {options : AnnotateOptions} {P : DisplayNode → Prop} :
    (∀ n ∈ (b.annotate options).value.nodes, P n) ↔
      (∀ g ∈ DatumGroup.all, ∀ n ∈ g.nodes b.report b.details.extendedData, P n) ∧
        P (.plain (b.report.nodeId .bug) b.report.checkerMsg .bug) ∧
          ∀ n ∈ (annotatePathEvents b.report b.details.pathEvents options).nodes, P n := by
  rw [← forall_mem_dataNodes_iff, ← List.forall_mem_cons, ← List.forall_mem_append]
  rfl

end DefectTrail
