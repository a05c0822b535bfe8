import DefectTrail.Proofs.Annotation.Nodes
import DefectTrail.Proofs.Json.Numeral
import Mathlib.Data.List.Nodup

/-!
# Node ids

An id is a label written out: the report's number, a kind of node and, for items and steps, a position, with underscores
between them. None of the three has an underscore in it, so that the label is read off the id again.

* `toString_int_injective`, `toString_nat_injective` : different numbers have different decimal texts;
* `NodeLabel.text_inj` : different labels have different texts;
* `Bundle.map_id_nodes` : the ids of a report are the texts of its labels; `Bundle.nodup_labels` : these differ;
* `node_ids_differ_iff_report_ids_do` : the statement as a whole, about all reports of a run.
-/

namespace DefectTrail

/-! ## Decimal texts -/

theorem toDigits_injective : Function.Injective (Nat.toDigits 10) := by
  intro m n h
  rw [← Numeral.digitsValue_toDigits m, h, Numeral.digitsValue_toDigits]

theorem toString_int_injective : Function.Injective (toString : Int → String) := by
  intro m n h
  have hlist := congrArg String.toList h
  cases m with
  | ofNat m =>
      cases n with
      | ofNat n =>
          rw [Json.toList_toString_ofNat, Json.toList_toString_ofNat] at hlist
          rw [toDigits_injective hlist]
      | negSucc n =>
          rw [Json.toList_toString_ofNat, Json.toList_toString_negSucc] at hlist
          exact absurd hlist (Numeral.toDigits_ne_minus_cons m _)
  | negSucc m =>
      cases n with
      | ofNat n =>
          rw [Json.toList_toString_ofNat, Json.toList_toString_negSucc] at hlist
          exact absurd hlist.symm (Numeral.toDigits_ne_minus_cons n _)
      | negSucc n =>
          rw [Json.toList_toString_negSucc, Json.toList_toString_negSucc] at hlist
          have hsucc : m + 1 = n + 1 := toDigits_injective (List.cons.inj hlist).2
          rw [Nat.succ.inj hsucc]

theorem toString_nat_injective : Function.Injective (toString : Nat → String) := by
  intro m n h
  have hint : (toString (m : Int) : String) = toString (n : Int) := h
  exact Int.ofNat.inj (toString_int_injective hint)

theorem underscore_notMem_toString_int (n : Int) : '_' ∉ (toString n).toList := by
  intro h
  exact absurd (Json.isNumberChar_of_mem_toString h) (by decide)

theorem underscore_notMem_toString_nat (n : Nat) : '_' ∉ (toString n).toList := underscore_notMem_toString_int n

/-! ## Labels -/

theorem NodeKind.wireName_injective : Function.Injective wireName := by
  intro kind kind' h
  have hread := ofWireName?_wireName kind
  rw [h, ofWireName?_wireName] at hread
  exact (Option.some.inj hread).symm

/-- What an id tells: the report, the kind of a node or of the group that an item belongs to, and the position of an item
or step. -/
structure NodeLabel where
  reportId : Int64
  kind : NodeKind
  position : Option Nat

namespace NodeLabel

/-- The label written out. -/
def text (l : NodeLabel) : String :=
  let stem := toString l.reportId.toInt ++ "_" ++ l.kind.wireName
  match l.position with
  | none => stem
  | some i => stem ++ "_" ++ toString i

/-- The name of the label's kind is one piece between underscores, as it is for all kinds but those of items. -/
def IsStem (l : NodeLabel) : Prop := '_' ∉ l.kind.wireName.toList

/-- The pieces between the underscores. -/
def pieces (l : NodeLabel) : List (List Char) :=
  [(toString l.reportId.toInt).toList, l.kind.wireName.toList] ++ (l.position.map fun i => (toString i).toList).toList

theorem splitOn_text {l : NodeLabel} (h : l.IsStem) : l.text.toList.splitOn '_' = l.pieces := by
  have hreport := underscore_notMem_toString_int l.reportId.toInt
  obtain ⟨report, kind, position⟩ := l
  cases position with
  | none =>
      have hlist : (toString report.toInt ++ "_" ++ kind.wireName).toList =
          (toString report.toInt).toList ++ '_' :: kind.wireName.toList := by
        simp
      show (toString report.toInt ++ "_" ++ kind.wireName).toList.splitOn '_' = _
      rw [hlist, List.splitOn_append_cons_self, List.splitOn_eq_singleton hreport, List.splitOn_eq_singleton h]
      rfl
  | some i =>
      have hlist : (toString report.toInt ++ "_" ++ kind.wireName ++ "_" ++ toString i).toList =
          (toString report.toInt).toList ++ '_' :: (kind.wireName.toList ++ '_' :: (toString i).toList) := by
        simp
      show (toString report.toInt ++ "_" ++ kind.wireName ++ "_" ++ toString i).toList.splitOn '_' = _
      rw [hlist, List.splitOn_append_cons_self, List.splitOn_append_cons_self, List.splitOn_eq_singleton hreport,
        List.splitOn_eq_singleton h, List.splitOn_eq_singleton (underscore_notMem_toString_nat i)]
      rfl

theorem pieces_injective : Function.Injective pieces := by
  rintro ⟨report, kind, position⟩ ⟨report', kind', position'⟩ h
  obtain ⟨hreport, h⟩ := List.cons.inj h
  obtain ⟨hkind, hposition⟩ := List.cons.inj h
  obtain rfl : report = report' := Int64.toInt_inj.1 (toString_int_injective (String.toList_inj.1 hreport))
  obtain rfl : kind = kind' := NodeKind.wireName_injective (String.toList_inj.1 hkind)
  cases position with
  | none =>
      cases position' with
      | none => rfl
      | some j => cases hposition
  | some i =>
      cases position' with
      | none => cases hposition
      | some j =>
          obtain rfl : i = j := toString_nat_injective (String.toList_inj.1 (List.cons.inj hposition).1)
          rfl

/-- A label is known by its text. -/
theorem text_inj {l l' : NodeLabel} (h : l.IsStem) (h' : l'.IsStem) : l.text = l'.text ↔ l = l' := by
  refine ⟨fun htext => pieces_injective ?_, congrArg text⟩
  rw [← splitOn_text h, ← splitOn_text h', htext]

/-! ## Rows of labels -/

/-- The labels with positions from zero up to `count`. -/
def numbered (reportId : Int64) (kind : NodeKind) (count : Nat) : List NodeLabel :=
  (List.range count).map fun i => ⟨reportId, kind, some i⟩

/-- The labels of a group with so many members: its header's and the members'. -/
def grouped (reportId : Int64) (kind : NodeKind) (count : Nat) : List NodeLabel :=
  if count = 0 then [] else ⟨reportId, kind, none⟩ :: numbered reportId kind count

variable {reportId : Int64} {kind : NodeKind} {count : Nat} {l : NodeLabel}

theorem of_mem_numbered (h : l ∈ numbered reportId kind count) :
    l.reportId = reportId ∧ l.kind = kind ∧ l.position ≠ none := by
  obtain ⟨i, -, rfl⟩ := List.mem_map.1 h
  exact ⟨rfl, rfl, Option.some_ne_none i⟩

theorem nodup_numbered (reportId : Int64) (kind : NodeKind) (count : Nat) : (numbered reportId kind count).Nodup := by
  apply List.nodup_range.map
  intro i j h
  exact Option.some.inj (congrArg position h)

theorem of_mem_grouped (h : l ∈ grouped reportId kind count) : l.reportId = reportId ∧ l.kind = kind := by
  unfold grouped at h
  split at h
  · cases h
  · rcases List.mem_cons.1 h with rfl | h
    · exact ⟨rfl, rfl⟩
    · obtain ⟨hreport, hkind, -⟩ := of_mem_numbered h
      exact ⟨hreport, hkind⟩

theorem nodup_grouped (reportId : Int64) (kind : NodeKind) (count : Nat) : (grouped reportId kind count).Nodup := by
  unfold grouped
  split
  · exact List.nodup_nil
  · apply List.nodup_cons.2
    refine ⟨fun h => ?_, nodup_numbered ..⟩
    obtain ⟨-, -, hposition⟩ := of_mem_numbered h
    exact hposition rfl

end NodeLabel

/-! ## Labels of reports -/

open NodeLabel (numbered grouped of_mem_numbered nodup_numbered of_mem_grouped nodup_grouped)

/-- What is the same for all items at a position is determined by the positions alone. -/
theorem map_mapIdx_eq_map_range {α β γ : Type} {f : Nat → α → β} {g : β → γ} {h : Nat → γ} (heq : ∀ i a, g (f i a) = h i)
    (as : List α) : (as.mapIdx f).map g = (List.range as.length).map h := by
  apply List.ext_getElem
  · simp
  · intro i hi hi'
    simp [heq]

theorem DatumGroup.map_id_nodes (g : DatumGroup) (report : ReportSummary) (data : List Datum) :
    (g.nodes report data).map (·.id) =
      (grouped report.reportId g.header (g.members data).length).map (·.text) := by
  rw [nodes_eq]
  by_cases hnone : g.members data = []
  · rw [if_pos hnone, hnone]
    rfl
  · rw [if_neg hnone, grouped, if_neg (mt List.length_eq_zero_iff.1 hnone), List.map_cons, List.map_cons, numbered,
      List.map_map]
    refine congrArg (List.cons _) ?_
    apply map_mapIdx_eq_map_range
    intro i d
    rfl

theorem map_id_annotatePathEvents (report : ReportSummary) (events : List Event) (options : AnnotateOptions) :
    (annotatePathEvents report events options).nodes.map (·.id) =
      (numbered report.reportId .step events.length).map (·.text) := by
  have hlength : (events.zip (Walk.start.trace options.stackRules (events.map (·.msg)))).length = events.length := by
    simp
  rw [numbered, List.map_map, ← hlength]
  apply map_mapIdx_eq_map_range
  intro i eventAndStep
  rfl

namespace Bundle

/-- The labels of a report: those of its groups, of the defect, and of the steps. -/
def labels (b : Bundle) : List NodeLabel :=
  grouped b.report.reportId .expansions (DatumGroup.expansions.members b.details.extendedData).length ++
    grouped b.report.reportId .notes (DatumGroup.notes.members b.details.extendedData).length ++
    ⟨b.report.reportId, .bug, none⟩ :: numbered b.report.reportId .step b.details.pathEvents.length

theorem map_id_nodes (b : Bundle) (options : AnnotateOptions) :
    (b.annotate options).value.nodes.map (·.id) = b.labels.map (·.text) := by
  simp only [annotate, dataNodes, labels, List.map_append, List.map_cons, DatumGroup.map_id_nodes,
    map_id_annotatePathEvents]
  rfl

theorem of_mem_labels {b : Bundle} {l : NodeLabel} (h : l ∈ b.labels) : l.reportId = b.report.reportId ∧ l.IsStem := by
  have hstem (kind : NodeKind) (hname : '_' ∉ kind.wireName.toList) (hkind : l.kind = kind) : l.IsStem := by
    rw [NodeLabel.IsStem, hkind]
    exact hname
  unfold labels at h
  rw [List.mem_append, List.mem_append, List.mem_cons] at h
  rcases h with (h | h) | rfl | h
  · obtain ⟨hreport, hkind⟩ := of_mem_grouped h
    exact ⟨hreport, hstem _ (by decide) hkind⟩
  · obtain ⟨hreport, hkind⟩ := of_mem_grouped h
    exact ⟨hreport, hstem _ (by decide) hkind⟩
  · exact ⟨rfl, hstem .bug (by decide) rfl⟩
  · obtain ⟨hreport, hkind, -⟩ := of_mem_numbered h
    exact ⟨hreport, hstem _ (by decide) hkind⟩

/-- The labels of a report differ: parts of different kinds have no label in common. -/
theorem nodup_labels (b : Bundle) : b.labels.Nodup := by
  unfold labels
  rw [List.nodup_append, List.nodup_append, List.nodup_cons]
  refine ⟨⟨nodup_grouped .., nodup_grouped .., ?_⟩, ⟨fun h => ?_, nodup_numbered ..⟩, ?_⟩
  · rintro l hl _ hl' rfl
    cases (of_mem_grouped hl).2.symm.trans (of_mem_grouped hl').2
  · cases (of_mem_numbered h).2.1
  · rintro l hl _ hl' rfl
    rw [List.mem_append] at hl
    rcases List.mem_cons.1 hl' with rfl | hl'
    · rcases hl with hl | hl
      · cases (of_mem_grouped hl).2
      · cases (of_mem_grouped hl).2
    · rcases hl with hl | hl
      · cases (of_mem_grouped hl).2.symm.trans (of_mem_numbered hl').2.1
      · cases (of_mem_grouped hl).2.symm.trans (of_mem_numbered hl').2.1

/-- Two reports have a label in common only if they have the same number: then they share that of the defect. -/
theorem disjoint_labels_iff {b b' : Bundle} : b.labels.Disjoint b'.labels ↔ b.report.reportId ≠ b'.report.reportId := by
  constructor
  · intro h hreport
    have hbug (b : Bundle) : (⟨b.report.reportId, .bug, none⟩ : NodeLabel) ∈ b.labels :=
      List.mem_append_right _ List.mem_cons_self
    exact h (hbug b) (hreport ▸ hbug b')
  · intro hne l hl hl'
    exact hne ((of_mem_labels hl).1.symm.trans (of_mem_labels hl').1)

end Bundle

/-! ## Batches -/

theorem Bundle.flatMap_ids_annotateAll (bundles : List Bundle) (options : AnnotateOptions) :
    ((annotateAll bundles options).value.flatMap fun r => r.nodes.map (·.id)) =
      (bundles.flatMap (·.labels)).map (·.text) := by
  rw [annotateAll, List.map_map, List.flatMap_map, List.map_flatMap]
  exact congrArg (List.flatMap · bundles) (funext fun b => b.map_id_nodes options)

/-- **The ids of all nodes of a batch differ, exactly if its reports have different numbers.** -/
theorem node_ids_differ_iff_report_ids_do (bundles : List Bundle) (options : AnnotateOptions) :
    ((Bundle.annotateAll bundles options).value.flatMap fun r => r.nodes.map (·.id)).Nodup ↔
      (bundles.map (·.report.reportId)).Nodup := by
  have hstem : ∀ l ∈ bundles.flatMap (·.labels), l.IsStem := by
    intro l hl
    obtain ⟨b, -, hl⟩ := List.mem_flatMap.1 hl
    exact (Bundle.of_mem_labels hl).2
  have htext : ((bundles.flatMap (·.labels)).map (·.text)).Nodup ↔ (bundles.flatMap (·.labels)).Nodup := by
    refine ⟨List.Nodup.of_map _, List.Nodup.map_on ?_⟩
    intro l hl l' hl' h
    exact (NodeLabel.text_inj (hstem l hl) (hstem l' hl')).1 h
  have hreports : bundles.Pairwise (Function.onFun List.Disjoint (·.labels)) ↔
      bundles.Pairwise fun b b' => b.report.reportId ≠ b'.report.reportId :=
    List.Pairwise.iff fun _ _ => Bundle.disjoint_labels_iff
  rw [Bundle.flatMap_ids_annotateAll, htext, List.nodup_flatMap, and_iff_right fun b _ => b.nodup_labels, hreports]
  exact List.pairwise_map.symm

end DefectTrail
