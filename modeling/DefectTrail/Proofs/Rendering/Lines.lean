import DefectTrail.Proofs.Annotation.Nodes
import DefectTrail.Proofs.Config.Resolve
import DefectTrail.Proofs.Json.Numeral
import DefectTrail.Proofs.Step.Names
import DefectTrail.Proofs.Text.Lines
import DefectTrail.Rendering
import Mathlib.Algebra.GroupWithZero.Nat

/-!
# The lines of text output

Each node of an annotated report has a line of its own, but what is written on it is taken over from the report as it is:
a line break in it breaks the line.

* `Bundle.lines_eq_of_annotate` : header, nodes and warnings, each with its line;
* `Bundle.shownTexts` : what text output takes over from a report;
  `Bundle.forall_isLine_lines_iff` : the lines are whole if that has no line breaks;
* `text_has_a_line_per_node_unless_broken` : the statement as a whole, about the rendered text;
  `message_breaks_its_line` : a report with one node whose text has two lines for it.
-/

namespace DefectTrail

open Text (IsLine isLine_append_iff)

/-! ## Parts of lines -/

namespace Text

theorem isLine_spaces (n : Nat) : IsLine (spaces n) := by
  rw [IsLine, spaces, String.toList_ofList]
  intro h
  exact absurd (List.eq_of_mem_replicate h) (by decide)

theorem isLine_padLeft_iff {width : Nat} {s : String} : IsLine (padLeft width s) ↔ IsLine s := by
  rw [padLeft, isLine_append_iff]
  exact and_iff_right (isLine_spaces _)

theorem isLine_padRight_iff {width : Nat} {s : String} : IsLine (padRight width s) ↔ IsLine s := by
  rw [padRight, isLine_append_iff]
  exact and_iff_left (isLine_spaces _)

theorem isLine_toString_int (n : Int) : IsLine (toString n) := by
  intro h
  exact absurd (Json.isNumberChar_of_mem_toString h) (by decide)

theorem isLine_toString_nat (n : Nat) : IsLine (toString n) := isLine_toString_int n

end Text

theorem Config.isLine_of_isHexColor {color : String} (h : isHexColor color = true) : IsLine color := by
  intro hbreak
  unfold isHexColor at h
  split at h
  · next digits hcolor =>
      rw [hcolor] at hbreak
      have hdigits := (Bool.and_eq_true_iff.1 h).2
      rcases List.mem_cons.1 hbreak with heq | hbreak
      · cases heq
      · exact absurd (List.all_eq_true.1 hdigits _ hbreak) (by decide)
  · cases h

/-! ## Lines of single nodes -/

theorem StepAnnotation.isLine_line_iff {s : StepAnnotation} (hband : IsLine s.band) (width : Nat) :
    IsLine (s.line width) ↔ IsLine s.event.msg := by
  have hkind : IsLine s.marker.kind.wireName := by cases s.marker.kind <;> decide
  have hicon : IsLine s.icon.label := by cases s.icon <;> decide
  have hgap : IsLine " " := by decide
  have hstart : IsLine "    " := by decide
  unfold line
  simp only [isLine_append_iff, Text.isLine_padLeft_iff, Text.isLine_padRight_iff, Text.isLine_toString_nat,
    Text.isLine_spaces, hkind, hicon, hgap, hstart, hband, true_and]

theorem StackMismatch.isLine_text {m : StackMismatch} (h : ∀ name ∈ m.names, IsLine name) : IsLine m.text := by
  have hreturned : IsLine (m.returnedFrom.getD "<allocated memory>") := by
    cases hname : m.returnedFrom with
    | none => decide
    | some name => exact h name (by simp [names, hname])
  have hstart : IsLine "step " := by decide
  have hfrom : IsLine ": returned from '" := by decide
  have hquote : IsLine "'" := by decide
  unfold text
  split
  · next top htop =>
      have hwhile : IsLine " while the innermost open call was '" := by decide
      have htopline : IsLine top := h top (by simp [names, htop])
      simp only [isLine_append_iff, Text.isLine_toString_nat, hstart, hfrom, hquote, hreturned, hwhile, htopline, and_self]
  · have hnone : IsLine " with no open call" := by decide
    simp only [isLine_append_iff, Text.isLine_toString_nat, hstart, hfrom, hquote, hreturned, hnone, and_self]

theorem AnnotatedReport.isLine_headerLine_iff {r : AnnotatedReport} :
    IsLine r.headerLine ↔ IsLine r.report.checkerId := by
  have hstart : IsLine "Report " := by decide
  have hopen : IsLine " [" := by decide
  have hclose : IsLine "]" := by decide
  have hchecker : IsLine (if r.report.checkerId = "" then "-" else r.report.checkerId) ↔ IsLine r.report.checkerId := by
    split
    · next hempty =>
        rw [hempty]
        decide
    · rfl
  simp only [headerLine, isLine_append_iff, Text.isLine_toString_int, hstart, hopen, hclose, hchecker, true_and, and_true]

/-! ## Lines of the nodes of a report -/

/-- The node has a line, and nothing on it breaks it. -/
def DisplayNode.IsOnLine (n : DisplayNode) (width : Nat) : Prop := ∃ line, n.line? width = some line ∧ IsLine line

theorem DisplayNode.isOnLine_iff {n : DisplayNode} {width : Nat} {line : String} (h : n.line? width = some line) :
    n.IsOnLine width ↔ IsLine line := by
  rw [IsOnLine, h]
  simp

namespace DatumGroup

theorem line?_header {g : DatumGroup} (hg : g ∈ all) (id : String) (width : Nat) :
    (DisplayNode.plain id g.title g.header).line? width = some ("  " ++ g.title) := by
  rcases List.mem_pair.1 hg with rfl | rfl <;> rfl

theorem line?_itemNode {g : DatumGroup} (hg : g ∈ all) (report : ReportSummary) (i : Nat) (d : Datum) (width : Nat) :
    (g.itemNode report i d).line? width =
      some ("    L" ++ Text.padRight 5 (toString d.startLine.toInt) ++ " " ++ d.message) := by
  rcases List.mem_pair.1 hg with rfl | rfl <;> rfl

variable {g : DatumGroup} {report : ReportSummary} {data : List Datum} {width : Nat}

theorem exists_line_of_mem_nodes (hg : g ∈ all) : ∀ n ∈ g.nodes report data, ∃ line, n.line? width = some line :=
  forall_mem_nodes_iff.2 ⟨fun _ => ⟨_, line?_header hg _ width⟩, fun i _ => ⟨_, line?_itemNode hg report i _ width⟩⟩

theorem forall_isOnLine_nodes_iff (hg : g ∈ all) :
    (∀ n ∈ g.nodes report data, n.IsOnLine width) ↔ ∀ d ∈ g.members data, IsLine d.message := by
  have htitle : IsLine ("  " ++ g.title) := by
    rcases List.mem_pair.1 hg with rfl | rfl <;> decide
  have hstart : IsLine "    L" := by decide
  have hgap : IsLine " " := by decide
  have hitem (i : Nat) (d : Datum) : (g.itemNode report i d).IsOnLine width ↔ IsLine d.message := by
    rw [DisplayNode.isOnLine_iff (line?_itemNode hg report i d width)]
    simp only [isLine_append_iff, Text.isLine_padRight_iff, Text.isLine_toString_int, hstart, hgap, true_and]
  rw [forall_mem_nodes_iff, DisplayNode.isOnLine_iff (line?_header hg _ width), and_iff_right fun _ => htitle]
  simp only [hitem]
  exact (@List.forall_mem_iff_forall_getElem _ (fun d : Datum => IsLine d.message) _).symm

end DatumGroup

section
variable {report : ReportSummary} {events : List Event} {options : AnnotateOptions} {width : Nat}

theorem exists_line_of_mem_annotatePathEvents {n : DisplayNode}
    (h : n ∈ (annotatePathEvents report events options).nodes) (width : Nat) :
    ∃ s ∈ (annotatePathEvents report events options).steps, n.step = some s ∧ n.line? width = some (s.line width) := by
  obtain ⟨s, hs, hstep, hkind, -⟩ := exists_step_of_mem_annotatePathEvents h
  refine ⟨s, hs, hstep, ?_⟩
  rw [DisplayNode.line?, hkind, hstep]
  rfl

theorem isLine_band_of_mem_steps (hcolors : ∀ color ∈ options.palette.colors, IsLine color) {s : StepAnnotation}
    (h : s ∈ (annotatePathEvents report events options).steps) : IsLine s.band := by
  obtain ⟨i, hi⟩ := List.mem_iff_getElem?.1 h
  rw [(icon_band_level_of_getElem?_steps report events options hi).2.1]
  exact hcolors _ (Palette.color_mem _ _)

theorem forall_isOnLine_path_iff (hcolors : ∀ color ∈ options.palette.colors, IsLine color) :
    (∀ n ∈ (annotatePathEvents report events options).nodes, n.IsOnLine width) ↔ ∀ e ∈ events, IsLine e.msg := by
  have hevents : (∀ e ∈ events, IsLine e.msg) ↔
      ∀ s ∈ (annotatePathEvents report events options).steps, IsLine s.event.msg := by
    conv_lhs => rw [← map_event_steps report events options]
    exact List.forall_mem_map
  rw [hevents]
  constructor
  · intro h s hs
    obtain ⟨n, hn, hns⟩ := List.mem_filterMap.1 hs
    obtain ⟨s', -, hns', hline⟩ := exists_line_of_mem_annotatePathEvents hn width
    obtain rfl := Option.some.inj (hns.symm.trans hns')
    rw [← StepAnnotation.isLine_line_iff (isLine_band_of_mem_steps hcolors hs), ← DisplayNode.isOnLine_iff hline]
    exact h n hn
  · intro h n hn
    obtain ⟨s, hs, -, hline⟩ := exists_line_of_mem_annotatePathEvents hn width
    rw [DisplayNode.isOnLine_iff hline, StepAnnotation.isLine_line_iff (isLine_band_of_mem_steps hcolors hs)]
    exact h s hs

theorem names_of_mem_mismatches (h : ∀ e ∈ events, IsLine e.msg) {m : StackMismatch}
    (hm : m ∈ (annotatePathEvents report events options).mismatches) : ∀ name ∈ m.names, IsLine name := by
  rw [mismatches_eq] at hm
  obtain ⟨i, -, hm⟩ := List.mem_filterMap.1 hm
  intro name hname hbreak
  obtain ⟨message, hmessage, hin⟩ := exists_mem_of_mem_names hm hname hbreak
  obtain ⟨e, he, rfl⟩ := List.mem_map.1 hmessage
  exact h e he hin

end

/-! ## Lines of a report -/

namespace Bundle

/-- What text output takes over from a report as it is. -/
def shownTexts (b : Bundle) : List String :=
  b.report.checkerId :: b.report.checkerMsg ::
    ((b.details.extendedData.filter fun d => DatumGroup.all.any (d.kind = ·.datumKind)).map (·.message)
      ++ b.details.pathEvents.map (·.msg))

variable {b : Bundle} {options : AnnotateOptions} {width : Nat}

theorem forall_mem_shownTexts_iff {P : String → Prop} :
    (∀ t ∈ b.shownTexts, P t) ↔ P b.report.checkerId ∧
      (∀ g ∈ DatumGroup.all, ∀ d ∈ g.members b.details.extendedData, P d.message) ∧ P b.report.checkerMsg ∧
        ∀ e ∈ b.details.pathEvents, P e.msg := by
  have hdata : (∀ d ∈ b.details.extendedData.filter fun d => DatumGroup.all.any (d.kind = ·.datumKind), P d.message) ↔
      ∀ g ∈ DatumGroup.all, ∀ d ∈ g.members b.details.extendedData, P d.message := by
    simp only [DatumGroup.mem_members_iff, List.mem_filter, List.any_eq_true, decide_eq_true_eq]
    constructor
    · rintro h g hg d ⟨hd, hkind⟩
      exact h d ⟨hd, g, hg, hkind⟩
    · rintro h d ⟨hd, g, hg, hkind⟩
      exact h g hg d ⟨hd, hkind⟩
  rw [shownTexts, List.forall_mem_cons, List.forall_mem_cons, List.forall_mem_append, List.forall_mem_map,
    List.forall_mem_map, hdata]
  exact and_congr_right' and_left_comm

theorem line?_bug (r : ReportSummary) (width : Nat) :
    (DisplayNode.plain (r.nodeId .bug) r.checkerMsg .bug).line? width = some ("  " ++ r.checkerMsg) := rfl

theorem exists_line_of_mem_nodes {n : DisplayNode} (h : n ∈ (b.annotate options).value.nodes) (width : Nat) :
    ∃ line, n.line? width = some line := by
  revert n
  rw [forall_mem_nodes_iff]
  refine ⟨fun g hg => DatumGroup.exists_line_of_mem_nodes hg, ⟨_, line?_bug _ _⟩, fun n hn => ?_⟩
  obtain ⟨s, -, -, hline⟩ := exists_line_of_mem_annotatePathEvents hn width
  exact ⟨_, hline⟩

/-- A report has its header, a line for each node and one for each mismatch. -/
theorem lines_eq_of_annotate : ∃ nodeLines, (b.annotate options).value.nodes.map (·.line? width) = nodeLines.map some ∧
    (b.annotate options).value.lines width = (b.annotate options).value.headerLine ::
      (nodeLines ++ (b.annotate options).value.mismatches.map fun m => "  warning: " ++ m.text) := by
  refine ⟨(b.annotate options).value.nodes.filterMap (·.line? width), ?_, rfl⟩
  rw [List.map_filterMap, ← List.filterMap_eq_map]
  refine List.filterMap_congr fun n hn => ?_
  rw [Function.comp_apply]
  obtain ⟨line, hline⟩ := exists_line_of_mem_nodes hn width
  rw [hline, Option.map_some]

theorem forall_isOnLine_iff (hcolors : ∀ color ∈ options.palette.colors, IsLine color) :
    (∀ n ∈ (b.annotate options).value.nodes, n.IsOnLine width) ↔
      (∀ g ∈ DatumGroup.all, ∀ d ∈ g.members b.details.extendedData, IsLine d.message) ∧ IsLine b.report.checkerMsg ∧
        ∀ e ∈ b.details.pathEvents, IsLine e.msg := by
  have hstart : IsLine "  " := by decide
  rw [forall_mem_nodes_iff, forall_isOnLine_path_iff hcolors, DisplayNode.isOnLine_iff (line?_bug _ _),
    isLine_append_iff, and_iff_right hstart]
  refine and_congr_left' (forall₂_congr fun g hg => ?_)
  exact DatumGroup.forall_isOnLine_nodes_iff hg

/-- The lines of a report are whole if what they take over is. -/
theorem forall_isLine_lines_iff (hcolors : ∀ color ∈ options.palette.colors, IsLine color) :
    (∀ l ∈ (b.annotate options).value.lines width, IsLine l) ↔ ∀ t ∈ b.shownTexts, IsLine t := by
  have hnodes : (∀ l ∈ (b.annotate options).value.nodes.filterMap (·.line? width), IsLine l) ↔
      ∀ n ∈ (b.annotate options).value.nodes, n.IsOnLine width := by
    rw [List.forall_mem_filterMap]
    refine forall₂_congr fun n hn => ?_
    obtain ⟨line, hline⟩ := exists_line_of_mem_nodes hn width
    rw [DisplayNode.isOnLine_iff hline, hline]
    simp only [Option.some.injEq, forall_eq']
  rw [AnnotatedReport.lines, List.forall_mem_cons, List.forall_mem_append, AnnotatedReport.isLine_headerLine_iff, hnodes,
    forall_isOnLine_iff hcolors, forall_mem_shownTexts_iff]
  -- warnings ask for nothing more: the functions they name come from the messages of the path
  refine and_congr_right' (and_iff_left_of_imp fun h => ?_)
  have hstart : IsLine "  warning: " := by decide
  rw [List.forall_mem_map]
  intro m hm
  have hpath : m ∈ (annotatePathEvents b.report b.details.pathEvents options).mismatches := hm
  exact isLine_append_iff.2 ⟨hstart, StackMismatch.isLine_text (names_of_mem_mismatches h.2.2 hpath)⟩

end Bundle

/-! ## Texts -/

theorem lines_renderText (reports : List AnnotatedReport) (width : Nat) :
    Text.lines (renderText reports width) =
      [""].intercalate (reports.map fun r => (r.lines width).flatMap Text.lines) ++ [""] := by
  have h := Text.lines_intercalate (reports.map (·.lines width))
  simp only [List.map_map, Function.comp_def] at h
  exact h

/-- A text has at least the lines of its reports, and no more only if these are whole. -/
theorem count_newline_renderText_eq_iff (reports : List AnnotatedReport) (width : Nat) :
    (renderText reports width).toList.count '\n' =
        (reports.map fun r => (r.lines width).length).sum + (reports.length - 1) ↔
      ∀ r ∈ reports, ∀ l ∈ r.lines width, IsLine l := by
  have hlength := Text.length_lines (renderText reports width)
  have hflatten : (reports.map fun r => (r.lines width).flatMap Text.lines).flatten =
      (reports.flatMap (·.lines width)).flatMap Text.lines := by
    rw [List.flatMap_assoc, List.flatMap_def]
  rw [lines_renderText, List.length_append, List.length_singleton, Text.length_intercalate_singleton, hflatten,
    List.length_map] at hlength
  have hwhole : (∀ r ∈ reports, ∀ l ∈ r.lines width, IsLine l) ↔ ∀ l ∈ reports.flatMap (·.lines width), IsLine l := by
    rw [List.forall_mem_flatMap]
  rw [hwhole, ← Text.length_flatMap_lines_eq_iff, ← List.length_flatMap]
  omega

theorem lines_renderText_eq_iff (reports : List AnnotatedReport) (width : Nat) :
    Text.lines (renderText reports width) = [""].intercalate (reports.map (·.lines width)) ++ [""] ↔
      ∀ r ∈ reports, ∀ l ∈ r.lines width, IsLine l := by
  constructor
  · intro h
    -- a broken line would make the left side the longer one
    have hlength := Text.length_lines (renderText reports width)
    rw [h, List.length_append, List.length_singleton, Text.length_intercalate_singleton, List.length_map,
      ← List.flatMap_def, List.length_flatMap] at hlength
    rw [← count_newline_renderText_eq_iff]
    omega
  · intro h
    rw [lines_renderText]
    have hlines : reports.map (fun r => (r.lines width).flatMap Text.lines) = reports.map (·.lines width) :=
      List.map_congr_left fun r hr => Text.flatMap_lines_of_isLine (h r hr)
    rw [hlines]

/-- **Text output has a header, a line for each node and one for each mismatch, unless a text in a report breaks.** -/
theorem text_has_a_line_per_node_unless_broken [Glob.Compiler] {c : Config} {settings : Settings}
    (h : c.resolve = .ok settings) (bundles : List Bundle) (width : Nat) :
    let reports := bundles.map fun b => (b.annotate settings.annotateOptions).value
    (∀ r ∈ reports, ∃ nodeLines, r.nodes.map (·.line? width) = nodeLines.map some ∧
      r.lines width = r.headerLine :: (nodeLines ++ r.mismatches.map fun m => "  warning: " ++ m.text)) ∧
    Text.lines (renderText reports width) =
      [""].intercalate (reports.map fun r => (r.lines width).flatMap Text.lines) ++ [""] ∧
    (Text.lines (renderText reports width) = [""].intercalate (reports.map (·.lines width)) ++ [""] ↔
      ∀ b ∈ bundles, ∀ t ∈ b.shownTexts, IsLine t) ∧
    ((renderText reports width).toList.count '\n' =
        (reports.map fun r => 1 + r.nodes.length + r.mismatches.length).sum + (reports.length - 1) ↔
      ∀ b ∈ bundles, ∀ t ∈ b.shownTexts, IsLine t) := by
  intro reports
  have hcolors : ∀ color ∈ settings.annotateOptions.palette.colors, IsLine color := by
    intro color hcolor
    exact Config.isLine_of_isHexColor (Config.isHexColor_of_check (Config.check_of_resolve h) color hcolor)
  have hnodes : ∀ r ∈ reports, ∃ nodeLines, r.nodes.map (·.line? width) = nodeLines.map some ∧
      r.lines width = r.headerLine :: (nodeLines ++ r.mismatches.map fun m => "  warning: " ++ m.text) := by
    rw [List.forall_mem_map]
    exact fun b _ => Bundle.lines_eq_of_annotate
  have hwhole : (∀ r ∈ reports, ∀ l ∈ r.lines width, IsLine l) ↔ ∀ b ∈ bundles, ∀ t ∈ b.shownTexts, IsLine t := by
    rw [List.forall_mem_map]
    exact forall₂_congr fun b _ => Bundle.forall_isLine_lines_iff hcolors
  have hlengths : reports.map (fun r => 1 + r.nodes.length + r.mismatches.length) =
      reports.map fun r => (r.lines width).length := by
    refine List.map_congr_left fun r hr => ?_
    obtain ⟨nodeLines, hmap, hlines⟩ := hnodes r hr
    have hlength := congrArg List.length hmap
    rw [List.length_map, List.length_map] at hlength
    rw [hlines, List.length_cons, List.length_append, List.length_map, hlength]
    omega
  refine ⟨hnodes, lines_renderText reports width, ?_, ?_⟩
  · rw [lines_renderText_eq_iff, hwhole]
  · rw [hlengths, count_newline_renderText_eq_iff, hwhole]

/-- Two reports of four nodes and a mismatch each. -/
theorem text_has_a_line_per_node_unless_broken_mismatched :
    let c : Config := ⟨some ["#fff", "#00FF7f"], none, some true, some 4, []⟩
    let b : Bundle := ⟨⟨7, "m", "core"⟩, ⟨[.bare .note 3 "n"], [.bare "Returning from 'g'"]⟩⟩
    let settings : Settings := ⟨⟨["#fff", "#00FF7f"], by decide⟩, " (fixit)", true, 4, [], none⟩
    let reports := [b, b].map fun b => (b.annotate settings.annotateOptions).value
    c.resolve = .ok settings ∧ (∀ t ∈ b.shownTexts, IsLine t) ∧
      Text.lines (renderText reports 4) = [""].intercalate (reports.map (·.lines 4)) ++ [""] ∧
      (renderText reports 4).toList.count '\n' = 13 := by
  intro c b settings reports
  have hresolve : c.resolve = .ok settings := rfl
  have htexts : ∀ t ∈ b.shownTexts, IsLine t := by decide
  have hwhole : ∀ b' ∈ [b, b], ∀ t ∈ b'.shownTexts, IsLine t := by
    rw [List.forall_mem_cons, List.forall_mem_singleton]
    exact ⟨htexts, htexts⟩
  have hsum : (reports.map fun r => 1 + r.nodes.length + r.mismatches.length).sum + (reports.length - 1) = 13 := by
    decide +kernel
  obtain ⟨-, -, hlines, hcount⟩ := text_has_a_line_per_node_unless_broken hresolve [b, b] 4
  exact ⟨hresolve, htexts, hlines.2 hwhole, (hcount.2 hwhole).trans hsum⟩

/-- A report of one node that takes two lines, as its message does. -/
theorem message_breaks_its_line :
    let b : Bundle := ⟨⟨1, "a\nb", ""⟩, .empty⟩
    let settings : Settings := ⟨.default, " (fixit)", false, 2, [], none⟩
    let r := (b.annotate settings.annotateOptions).value
    Config.empty.resolve = .ok settings ∧ Bundle.ofJson? b.toJson = some b ∧ r.nodes.length = 1 ∧ r.mismatches = [] ∧
      Text.lines (renderText [r] 2) = ["Report 1 [-]", "  a", "b", ""] ∧
      (renderText [r] 2).toList.count '\n' ≠ 1 + r.nodes.length + r.mismatches.length := by
  intro b settings r
  have hread : Bundle.ofJson? b.toJson = some b := by decide +kernel
  have hnodes : r.nodes.length = 1 := by decide +kernel
  have hlines : Text.lines (renderText [r] 2) = ["Report 1 [-]", "  a", "b", ""] := by decide +kernel
  have hcount : (renderText [r] 2).toList.count '\n' = 3 := by
    have hlength := Text.length_lines (renderText [r] 2)
    rw [hlines] at hlength
    exact (Nat.add_right_cancel hlength).symm
  refine ⟨rfl, hread, hnodes, rfl, hlines, ?_⟩
  rw [hcount, hnodes]
  decide

end DefectTrail
