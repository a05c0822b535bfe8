import DefectTrail.Proofs.Annotation.Nodes
import DefectTrail.Proofs.Node.Codec
import DefectTrail.Proofs.Step.Range
import DefectTrail.Proofs.Text.Lines
import DefectTrail.Rendering

/-!
# Rendered reports are read back

An annotated bundle that was read itself, and is no longer than a 64-bit word can count, holds nothing that cannot be
read back; so neither rendering in JSON loses anything.

* `StepAnnotation.isStorable_of_mem_steps` : numbers and levels are no larger than the path is long;
* `Bundle.isStorable_annotate` : an annotated bundle can be read back;
* `annotated_reports_are_read_back` : the statement as a whole, about the texts.
-/

namespace DefectTrail

/-! ## Annotated bundles -/

section
variable {report : ReportSummary} {events : List Event} {options : AnnotateOptions}

theorem StepAnnotation.isStorable_of_mem_steps (hlength : events.length < Nat.pow 2 63) {s : StepAnnotation}
    (h : s ∈ (annotatePathEvents report events options).steps) : s.IsStorable := by
  obtain ⟨i, hi⟩ := List.mem_iff_getElem?.1 h
  obtain ⟨hlt, hindex, hlo, hhi⟩ := number_and_level_of_getElem?_steps report events options hi
  have hpow : Nat.pow 2 63 = 9223372036854775808 := rfl
  have hsize : UInt64.size = 18446744073709551616 := rfl
  have hmin : Int64.minValue.toInt = -9223372036854775808 := rfl
  have hmax : Int64.maxValue.toInt = 9223372036854775807 := rfl
  rw [hpow] at hlength
  refine ⟨?_, ?_, ?_⟩
  · rw [hsize, hindex]
    omega
  · rw [hmin]
    omega
  · rw [hmax]
    omega

theorem DisplayNode.isStorable_plain (id name : String) (kind : NodeKind) : (plain id name kind).IsStorable :=
  ⟨fun d hd => absurd hd (Option.not_mem_none d), fun s hs => absurd hs (Option.not_mem_none s)⟩

theorem DatumGroup.isStorable_itemNode (g : DatumGroup) (report : ReportSummary) (i : Nat) {d : Datum}
    (h : d.kind.IsCanonical) : (g.itemNode report i d).IsStorable := by
  refine ⟨fun d' hd => ?_, fun s hs => absurd hs (Option.not_mem_none s)⟩
  obtain rfl := Option.some.inj hd
  exact h

/-- An annotated bundle can be read back. -/
theorem Bundle.isStorable_annotate {b : Bundle} (hkinds : b.IsCanonical)
    (hlength : b.details.pathEvents.length < Nat.pow 2 63) (options : AnnotateOptions) :
    (b.annotate options).value.IsStorable := by
  refine ⟨forall_mem_nodes_iff.2 ⟨fun g _ => ?_, DisplayNode.isStorable_plain .., fun n hn => ?_⟩, fun m hm => ?_⟩
  · rw [DatumGroup.forall_mem_nodes_iff]
    refine ⟨fun _ => DisplayNode.isStorable_plain .., fun i hi => DatumGroup.isStorable_itemNode g _ i ?_⟩
    exact hkinds _ (DatumGroup.mem_members_iff.1 (List.getElem_mem hi)).1
  · obtain ⟨s, hs, hstep, -, hdatum⟩ := exists_step_of_mem_annotatePathEvents hn
    refine ⟨fun d hd => ?_, fun s' hs' => ?_⟩
    · rw [hdatum] at hd
      cases hd
    · rw [hstep] at hs'
      obtain rfl := Option.some.inj hs'
      exact StepAnnotation.isStorable_of_mem_steps hlength hs
  · have hlt := stepIndex_lt_of_mem_mismatches b.report b.details.pathEvents options hm
    have hpow : Nat.pow 2 63 = 9223372036854775808 := rfl
    have hsize : UInt64.size = 18446744073709551616 := rfl
    omega

end

/-! ## Texts -/

section
variable {reports : List AnnotatedReport}

theorem read_renderJson (h : ∀ r ∈ reports, r.IsStorable) :
    (Json.parse? (renderJson reports)).bind (Json.ofArray? AnnotatedReport.ofJson?) = some reports := by
  have hwritable : Json.Writable Json.IsWord Json.maxDepth (.array (reports.map AnnotatedReport.toJson)) :=
    Json.Writable.list fun r hr => AnnotatedReport.writable_toJson (h r hr).hasNumbers 121
  rw [renderJson, Json.parse?_pretty hwritable, Option.bind_some]
  exact Json.ofArray?_map_of_mem fun r hr => AnnotatedReport.ofJson?_toJson (h r hr)

theorem isLine_compact {r : AnnotatedReport} (h : r.IsStorable) : Text.IsLine r.toJson.compact := by
  rw [Text.IsLine, Json.compact, String.toList_ofList]
  exact Json.newline_notMem_compactChars (AnnotatedReport.writable_toJson h.hasNumbers 0)

theorem renderJsonLines_eq (reports : List AnnotatedReport) :
    renderJsonLines reports = String.join ((reports.map (·.toJson.compact)).map (· ++ "\n")) := by
  rw [renderJsonLines, List.map_map]
  rfl

theorem read_line {r : AnnotatedReport} (h : r.IsStorable) :
    (Json.parse? r.toJson.compact).bind AnnotatedReport.ofJson? = some r := by
  rw [Json.parse?_compact (AnnotatedReport.writable_toJson h.hasNumbers 122), Option.bind_some,
    AnnotatedReport.ofJson?_toJson h]

end

/-- **Annotated bundles are read back from their rendering, as one array or line by line.** -/
theorem annotated_reports_are_read_back {reports : List AnnotatedReport}
    (h : ∀ r ∈ reports, ∃ v b options, Bundle.ofJson? v = some b ∧
      b.details.pathEvents.length < Nat.pow 2 63 ∧ r = (b.annotate options).value) :
    (Json.parse? (renderJson reports)).bind (Json.ofArray? AnnotatedReport.ofJson?) = some reports ∧
      ∃ lines, renderJsonLines reports = String.join (lines.map (· ++ "\n")) ∧ (∀ line ∈ lines, Text.IsLine line) ∧
        Text.lines (renderJsonLines reports) = lines ++ [""] ∧
        lines.map (fun line => (Json.parse? line).bind AnnotatedReport.ofJson?) = reports.map some := by
  have hstorable : ∀ r ∈ reports, r.IsStorable := by
    intro r hr
    obtain ⟨v, b, options, hb, hlength, rfl⟩ := h r hr
    exact Bundle.isStorable_annotate (Bundle.isCanonical_of_ofJson? hb) hlength options
  have hlines : ∀ line ∈ reports.map (·.toJson.compact), Text.IsLine line := by
    intro line hline
    obtain ⟨r, hr, rfl⟩ := List.mem_map.1 hline
    exact isLine_compact (hstorable r hr)
  refine ⟨read_renderJson hstorable, reports.map (·.toJson.compact), renderJsonLines_eq reports, hlines, ?_, ?_⟩
  · rw [renderJsonLines_eq, Text.lines_join, Text.flatMap_lines_of_isLine hlines]
  · rw [List.map_map]
    refine List.map_congr_left fun r hr => ?_
    rw [Function.comp_apply, read_line (hstorable r hr)]

/-- A report whose texts hold a quote, a backslash and a line break, and whose path ends in a mismatch. -/
theorem annotated_reports_are_read_back_escaped :
    let b : Bundle := ⟨⟨1, "a\"\\\nb", ""⟩, ⟨[⟨.other "macro", 3, "m", none, none, none, none⟩],
      [.bare "Returning from 'f'"]⟩⟩
    let r := (b.annotate .default).value
    Bundle.ofJson? b.toJson = some b ∧ b.details.pathEvents.length < Nat.pow 2 63 ∧ r.mismatches.length = 1 ∧
      (Json.parse? (renderJson [r])).bind (Json.ofArray? AnnotatedReport.ofJson?) = some [r] := by
  intro b r
  have hread : Bundle.ofJson? b.toJson = some b := by decide +kernel
  have hlength : b.details.pathEvents.length < Nat.pow 2 63 := by decide
  refine ⟨hread, hlength, by decide +kernel, ?_⟩
  refine (annotated_reports_are_read_back ?_).1
  intro r' hr'
  exact ⟨b.toJson, b, .default, hread, hlength, List.mem_singleton.1 hr'⟩

end DefectTrail
