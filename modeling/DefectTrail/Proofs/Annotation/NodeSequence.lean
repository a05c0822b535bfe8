import DefectTrail.Proofs.Annotation.Nodes
import DefectTrail.Rendering
import Mathlib.Data.List.Infix

/-!
# The sequence of a report's nodes

The nodes of a report are those of its groups, then the one of the defect, then one for each event of the path; each
carries what its kind asks for, so that a line of text output never lacks the datum or step that it is about.

* `DatumGroup.kinds`, `DatumGroup.map_kind_nodes` : a group has a header and its members, or nothing;
  `DatumGroup.perm_map_datum_nodes` : the members carry the data of the group's kind;
* `getElem?_nodes_annotatePathEvents` : the node of an event;
* `DisplayNode.IsTyped` : what a node carries fits its kind; `DisplayNode.IsTyped.line?_item` and
  `DisplayNode.IsTyped.line?_step` : and so its line is about it;
* `nodes_are_groups_then_defect_then_steps` : the statement as a whole.
-/

namespace DefectTrail

/-! ## What nodes carry -/

namespace DisplayNode

/-- The node carries what its kind asks for: a step if it stands for one, a datum of the group's kind if it is a member of
a group, and nothing else. -/
structure IsTyped (n : DisplayNode) : Prop where
  isSome_step_iff : n.step.isSome ↔ n.kind = .step
  isSome_datum_iff : n.datum.isSome ↔ n.kind = .expansionItem ∨ n.kind = .noteItem
  datum_kind : ∀ d ∈ n.datum, (n.kind = .expansionItem → d.kind = .expansion) ∧ (n.kind = .noteItem → d.kind = .note)

theorem isTyped_plain (id name : String) {kind : NodeKind} (h : kind ∈ [.bug, .expansions, .notes]) :
    (plain id name kind).IsTyped := by
  simp only [List.mem_cons, List.not_mem_nil, or_false] at h
  refine ⟨?_, ?_, nofun⟩
  · rcases h with rfl | rfl | rfl <;> simp [plain]
  · rcases h with rfl | rfl | rfl <;> simp [plain]

variable {n : DisplayNode}

theorem IsTyped.line?_item (h : n.IsTyped) (hkind : n.kind = .expansionItem ∨ n.kind = .noteItem) (width : Nat) :
    ∃ d, n.datum = some d ∧
      n.line? width = some ("    L" ++ Text.padRight 5 (toString d.startLine.toInt) ++ " " ++ n.name) := by
  obtain ⟨d, hd⟩ := Option.isSome_iff_exists.1 (h.isSome_datum_iff.2 hkind)
  refine ⟨d, hd, ?_⟩
  unfold line?
  rw [hd]
  rcases hkind with hkind | hkind <;> rw [hkind] <;> rfl

theorem IsTyped.line?_step (h : n.IsTyped) (hkind : n.kind = .step) (width : Nat) :
    ∃ s, n.step = some s ∧ n.line? width = some (s.line width) := by
  obtain ⟨s, hs⟩ := Option.isSome_iff_exists.1 (h.isSome_step_iff.2 hkind)
  refine ⟨s, hs, ?_⟩
  unfold line?
  rw [hs, hkind]
  rfl

end DisplayNode

/-! ## Groups -/

namespace DatumGroup

/-- The number of data that a group shows. -/
def count (g : DatumGroup) (data : List Datum) : Nat := data.countP (·.kind = g.datumKind)

/-- The kinds of the nodes of a group with so many members. -/
def kinds (g : DatumGroup) (count : Nat) : List NodeKind :=
  if count = 0 then [] else g.header :: List.replicate count g.item

theorem length_kinds (g : DatumGroup) (count : Nat) : (g.kinds count).length = count + if 0 < count then 1 else 0 := by
  unfold kinds
  split
  · next h => simp [h]
  · next h => simp [Nat.pos_of_ne_zero h]

variable {g : DatumGroup} {report : ReportSummary} {data : List Datum}

theorem perm_members (g : DatumGroup) (data : List Datum) :
    (g.members data).Perm (data.filter (·.kind = g.datumKind)) :=
  List.mergeSort_perm ..

theorem length_members (g : DatumGroup) (data : List Datum) : (g.members data).length = g.count data := by
  rw [(g.perm_members data).length_eq, count, List.countP_eq_length_filter]

theorem map_kind_nodes (g : DatumGroup) (report : ReportSummary) (data : List Datum) :
    (g.nodes report data).map (·.kind) = g.kinds (g.count data) := by
  rw [nodes_eq, ← length_members]
  by_cases hnone : g.members data = []
  · rw [if_pos hnone, hnone]
    rfl
  · rw [if_neg hnone, kinds, if_neg (mt List.length_eq_zero_iff.1 hnone), List.map_cons]
    refine congrArg (List.cons _) (List.eq_replicate_iff.2 ⟨by simp, fun kind hkind => ?_⟩)
    obtain ⟨n, hn, rfl⟩ := List.mem_map.1 hkind
    obtain ⟨i, hi, rfl⟩ := List.mem_mapIdx.1 hn
    rfl

theorem filter_item_nodes (hg : g ∈ all) (report : ReportSummary) (data : List Datum) :
    (g.nodes report data).filter (·.kind = g.item) = (g.members data).mapIdx (g.itemNode report) := by
  have hheader : g.header ≠ g.item := by
    rcases List.mem_pair.1 hg with rfl | rfl <;> decide
  have hitems : ((g.members data).mapIdx (g.itemNode report)).filter (·.kind = g.item) =
      (g.members data).mapIdx (g.itemNode report) := by
    rw [List.filter_eq_self]
    intro n hn
    obtain ⟨i, hi, rfl⟩ := List.mem_mapIdx.1 hn
    exact decide_eq_true rfl
  rw [nodes_eq]
  split
  · next hnone =>
      rw [hnone]
      rfl
  · rw [List.filter_cons_of_neg, hitems]
    rw [decide_eq_true_eq]
    exact hheader

theorem filter_nodes_of_ne {kind : NodeKind} (hheader : g.header ≠ kind) (hitem : g.item ≠ kind) :
    (g.nodes report data).filter (·.kind = kind) = [] := by
  rw [List.filter_eq_nil_iff, forall_mem_nodes_iff]
  simp only [decide_eq_true_eq]
  exact ⟨fun _ => hheader, fun _ _ => hitem⟩

theorem map_datum_mapIdx_itemNode (g : DatumGroup) (report : ReportSummary) (members : List Datum) :
    (members.mapIdx (g.itemNode report)).map (·.datum) = members.map some := by
  apply List.ext_getElem
  · simp
  · intro i hi hi'
    simp [itemNode]

/-- The members of a group carry the data of its kind. -/
theorem perm_map_datum_nodes (hg : g ∈ all) (report : ReportSummary) (data : List Datum) :
    (((g.nodes report data).filter (·.kind = g.item)).map (·.datum)).Perm
      ((data.filter (·.kind = g.datumKind)).map some) := by
  rw [filter_item_nodes hg, map_datum_mapIdx_itemNode]
  exact (g.perm_members data).map some

theorem isTyped_of_mem_nodes (hg : g ∈ all) : ∀ n ∈ g.nodes report data, n.IsTyped := by
  rw [forall_mem_nodes_iff]
  refine ⟨fun _ => DisplayNode.isTyped_plain _ _ ?_, fun i hi => ?_⟩
  · rcases List.mem_pair.1 hg with rfl | rfl <;> decide
  · have hkind : (g.members data)[i].kind = g.datumKind := (mem_members_iff.1 (List.getElem_mem hi)).2
    refine ⟨?_, ?_, fun d hd => ?_⟩
    · rcases List.mem_pair.1 hg with rfl | rfl <;> simp [itemNode, expansions, notes]
    · rcases List.mem_pair.1 hg with rfl | rfl <;> simp [itemNode, expansions, notes]
    · obtain rfl := Option.some.inj hd
      rcases List.mem_pair.1 hg with rfl | rfl
      · exact ⟨fun _ => hkind, nofun⟩
      · exact ⟨nofun, fun _ => hkind⟩

end DatumGroup

/-- The nodes of a group's own kinds are those of the group. -/
theorem filter_dataNodes (report : ReportSummary) (data : List Datum) {g : DatumGroup} (hg : g ∈ DatumGroup.all)
    {kind : NodeKind} (hkind : kind = g.header ∨ kind = g.item) :
    (dataNodes report data).filter (·.kind = kind) = (g.nodes report data).filter (·.kind = kind) := by
  rw [dataNodes, List.filter_append]
  rcases List.mem_pair.1 hg with rfl | rfl
  · rw [DatumGroup.filter_nodes_of_ne (g := .notes), List.append_nil]
    · rcases hkind with rfl | rfl <;> decide
    · rcases hkind with rfl | rfl <;> decide
  · rw [DatumGroup.filter_nodes_of_ne (g := .expansions), List.nil_append]
    · rcases hkind with rfl | rfl <;> decide
    · rcases hkind with rfl | rfl <;> decide

/-! ## Paths -/

section
variable (report : ReportSummary) (events : List Event) (options : AnnotateOptions)

/-- The node of the event at a position. -/
theorem getElem?_nodes_annotatePathEvents (i : Nat) :
    (annotatePathEvents report events options).nodes[i]? = events[i]?.map fun event =>
      stepNode report options events.length i event
        ((Walk.start.after options.stackRules ((events.map (·.msg)).take i)).step options.stackRules event.msg).1 := by
  rw [annotatePathEvents, List.getElem?_mapIdx, List.zip, List.getElem?_zipWith, Walk.getElem?_trace, List.getElem?_map]
  cases events[i]? <;> rfl

theorem length_nodes_annotatePathEvents : (annotatePathEvents report events options).nodes.length = events.length := by
  simp [annotatePathEvents]

end

/-- The marker as it is described: the last event is the result, and another is a fix if its message has the marker's
text somewhere. -/
theorem stepMarker_eq (msg : String) (i count : Nat) (fixitMarker : String) :
    stepMarker msg i (i + 1 == count) fixitMarker =
      ⟨i + 1, if i + 1 = count then .error else if fixitMarker.toList <:+: msg.toList then .fixit else .info⟩ := by
  simp only [stepMarker, beq_iff_eq, Text.occursIn_iff]

section
variable {report : ReportSummary} {events : List Event} {options : AnnotateOptions}

theorem kind_of_mem_annotatePathEvents {n : DisplayNode} (h : n ∈ (annotatePathEvents report events options).nodes) :
    n.kind = .step := by
  obtain ⟨s, -, -, hkind, -⟩ := exists_step_of_mem_annotatePathEvents h
  exact hkind

theorem isTyped_of_mem_annotatePathEvents : ∀ n ∈ (annotatePathEvents report events options).nodes, n.IsTyped := by
  intro n hn
  obtain ⟨s, -, hstep, hkind, hdatum⟩ := exists_step_of_mem_annotatePathEvents hn
  refine ⟨?_, ?_, fun d hd => ?_⟩
  · simp [hstep, hkind]
  · simp [hdatum, hkind]
  · rw [hdatum] at hd
    cases hd

end

/-! ## Reports -/

namespace Bundle

variable (b : Bundle) (options : AnnotateOptions)

theorem nodes_annotate :
    (b.annotate options).value.nodes =
      DatumGroup.expansions.nodes b.report b.details.extendedData ++
        DatumGroup.notes.nodes b.report b.details.extendedData ++
        .plain (b.report.nodeId .bug) b.report.checkerMsg .bug ::
          (annotatePathEvents b.report b.details.pathEvents options).nodes := rfl

theorem map_kind_nodes :
    (b.annotate options).value.nodes.map (·.kind) =
      DatumGroup.expansions.kinds (DatumGroup.expansions.count b.details.extendedData) ++
        DatumGroup.notes.kinds (DatumGroup.notes.count b.details.extendedData) ++
        .bug :: List.replicate b.details.pathEvents.length .step := by
  have hsteps : (annotatePathEvents b.report b.details.pathEvents options).nodes.map (·.kind) =
      List.replicate b.details.pathEvents.length .step := by
    rw [List.eq_replicate_iff, List.length_map, length_nodes_annotatePathEvents]
    refine ⟨rfl, fun kind hkind => ?_⟩
    obtain ⟨n, hn, rfl⟩ := List.mem_map.1 hkind
    exact kind_of_mem_annotatePathEvents hn
  rw [nodes_annotate, List.map_append, List.map_append, List.map_cons, DatumGroup.map_kind_nodes,
    DatumGroup.map_kind_nodes, hsteps]
  rfl

theorem isTyped_of_mem_nodes : ∀ n ∈ (b.annotate options).value.nodes, n.IsTyped :=
  forall_mem_nodes_iff.2 ⟨fun _ hg => DatumGroup.isTyped_of_mem_nodes hg,
    DisplayNode.isTyped_plain _ _ List.mem_cons_self, isTyped_of_mem_annotatePathEvents⟩

theorem filter_step_nodes :
    (b.annotate options).value.nodes.filter (·.kind = .step) =
      (annotatePathEvents b.report b.details.pathEvents options).nodes := by
  have hgroup {g : DatumGroup} (hg : g ∈ DatumGroup.all) :
      (g.nodes b.report b.details.extendedData).filter (·.kind = .step) = [] := by
    apply DatumGroup.filter_nodes_of_ne
    · rcases List.mem_pair.1 hg with rfl | rfl <;> decide
    · rcases List.mem_pair.1 hg with rfl | rfl <;> decide
  have hsteps : (annotatePathEvents b.report b.details.pathEvents options).nodes.filter (·.kind = .step) =
      (annotatePathEvents b.report b.details.pathEvents options).nodes := by
    rw [List.filter_eq_self]
    exact fun n hn => decide_eq_true (kind_of_mem_annotatePathEvents hn)
  rw [nodes_annotate, List.filter_append, List.filter_append, hgroup List.mem_cons_self,
    hgroup (List.mem_cons_of_mem _ List.mem_cons_self), List.filter_cons_of_neg, hsteps]
  · rfl
  · exact Bool.false_ne_true

theorem filter_item_nodes {g : DatumGroup} (hg : g ∈ DatumGroup.all) :
    (b.annotate options).value.nodes.filter (·.kind = g.item) =
      (g.nodes b.report b.details.extendedData).filter (·.kind = g.item) := by
  have hsteps : (annotatePathEvents b.report b.details.pathEvents options).nodes.filter (·.kind = g.item) = [] := by
    rw [List.filter_eq_nil_iff]
    intro n hn
    rw [decide_eq_true_eq, kind_of_mem_annotatePathEvents hn]
    rcases List.mem_pair.1 hg with rfl | rfl <;> decide
  rw [nodes_annotate, List.filter_append, List.filter_cons_of_neg, hsteps, List.append_nil]
  · exact filter_dataNodes b.report b.details.extendedData hg (Or.inr rfl)
  · rcases List.mem_pair.1 hg with rfl | rfl <;> exact Bool.false_ne_true

theorem length_nodes :
    (b.annotate options).value.nodes.length =
      b.details.pathEvents.length + 1 + DatumGroup.expansions.count b.details.extendedData +
        DatumGroup.notes.count b.details.extendedData +
        (DatumGroup.all.filter fun g => 0 < g.count b.details.extendedData).length := by
  have hkinds := congrArg List.length (b.map_kind_nodes options)
  rw [List.length_map, List.length_append, List.length_append, List.length_cons, List.length_replicate,
    DatumGroup.length_kinds, DatumGroup.length_kinds] at hkinds
  rw [hkinds, DatumGroup.all, ← List.countP_eq_length_filter, List.countP_cons, List.countP_cons, List.countP_nil]
  simp only [decide_eq_true_eq]
  omega

end Bundle

/-- **The nodes of a report are its groups with their members, the defect, and a step for each event.** -/
theorem nodes_are_groups_then_defect_then_steps (b : Bundle) (options : AnnotateOptions) :
    let nodes := (b.annotate options).value.nodes
    let data := b.details.extendedData
    let events := b.details.pathEvents
    nodes.map (·.kind) =
        DatumGroup.expansions.kinds (DatumGroup.expansions.count data) ++
          DatumGroup.notes.kinds (DatumGroup.notes.count data) ++ .bug :: List.replicate events.length .step ∧
      (∀ g ∈ DatumGroup.all, ((nodes.filter (·.kind = g.item)).map (·.datum)).Perm
        ((data.filter (·.kind = g.datumKind)).map some)) ∧
      (∀ (i : Nat) (event : Event), events[i]? = some event → ∃ (n : DisplayNode) (s : StepAnnotation),
        (nodes.filter (·.kind = .step))[i]? = some n ∧ n.step = some s ∧ s.event = event ∧
          s.marker = ⟨i + 1, if i + 1 = events.length then .error
            else if options.fixitMarker.toList <:+: event.msg.toList then .fixit else .info⟩) ∧
      (∀ n ∈ nodes, n.IsTyped ∧ ∀ width,
        (n.kind = .expansionItem ∨ n.kind = .noteItem → ∃ d, n.datum = some d ∧
          n.line? width = some ("    L" ++ Text.padRight 5 (toString d.startLine.toInt) ++ " " ++ n.name)) ∧
        (n.kind = .step → ∃ s, n.step = some s ∧ n.line? width = some (s.line width))) ∧
      nodes.length = events.length + 1 + DatumGroup.expansions.count data + DatumGroup.notes.count data +
        (DatumGroup.all.filter fun g => 0 < g.count data).length := by
  intro nodes data events
  refine ⟨b.map_kind_nodes options, fun g hg => ?_, fun i event hevent => ?_, fun n hn => ?_, b.length_nodes options⟩
  · rw [b.filter_item_nodes options hg]
    exact DatumGroup.perm_map_datum_nodes hg b.report data
  · have hnode := getElem?_nodes_annotatePathEvents b.report events options i
    rw [hevent, Option.map_some] at hnode
    rw [b.filter_step_nodes options]
    exact ⟨_, _, hnode, rfl, rfl, stepMarker_eq event.msg i events.length options.fixitMarker⟩
  · have htyped := b.isTyped_of_mem_nodes options n hn
    exact ⟨htyped, fun width => ⟨fun hkind => htyped.line?_item hkind width, fun hkind => htyped.line?_step hkind width⟩⟩

end DefectTrail
