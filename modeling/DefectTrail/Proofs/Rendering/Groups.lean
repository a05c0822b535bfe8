import DefectTrail.Proofs.Json.Layout
import DefectTrail.Proofs.Node.Codec
import DefectTrail.Rendering

/-!
# Renderings of groups of reports

The rendering of reports that come in groups, from the renderings of the groups.

* `renderJsonLines_flatten` : lines follow each other;
* `renderText_flatten` : an empty line stands between groups that have a report;
* `exists_parse?_renderJson` : the array of all reports has the items of each group's array.
-/

namespace DefectTrail

theorem renderJsonLines_flatten (groups : List (List AnnotatedReport)) :
    renderJsonLines groups.flatten = String.join (groups.map renderJsonLines) := by
  induction groups with
  | nil => rfl
  | cons group groups ih =>
      have happend (xs ys : List AnnotatedReport) :
          renderJsonLines (xs ++ ys) = renderJsonLines xs ++ renderJsonLines ys := by
        rw [renderJsonLines, List.map_append, String.join_append]
        rfl
      rw [List.flatten_cons, happend, ih, List.map_cons, String.join_cons]

/-! ## Text -/

theorem AnnotatedReport.text_ne_empty (r : AnnotatedReport) (width : Nat) : r.text width ≠ "" := by
  intro h
  have hlist := congrArg String.toList h
  rw [text, lines, List.map_cons, String.join_cons, headerLine] at hlist
  simp at hlist

theorem renderText_eq_empty_iff {reports : List AnnotatedReport} {width : Nat} :
    renderText reports width = "" ↔ reports = [] := by
  cases reports with
  | nil => exact iff_of_true rfl rfl
  | cons r reports =>
      refine iff_of_false (fun h => ?_) (List.cons_ne_nil r reports)
      rw [renderText, List.map_cons] at h
      cases reports with
      | nil =>
          rw [List.map_nil, String.intercalate_singleton] at h
          exact r.text_ne_empty width h
      | cons r' reports =>
          rw [List.map_cons, String.intercalate_cons_cons] at h
          have hlist := congrArg String.toList h
          simp at hlist

theorem renderText_append {xs ys : List AnnotatedReport} (hx : xs ≠ []) (hy : ys ≠ []) (width : Nat) :
    renderText (xs ++ ys) width = renderText xs width ++ "\n" ++ renderText ys width := by
  rw [renderText, List.map_append,
    String.intercalate_append_of_ne_nil (List.map_eq_nil_iff.not.2 hx) (List.map_eq_nil_iff.not.2 hy)]
  rfl

/-- Only groups that have a report are parted by an empty line. -/
theorem renderText_flatten (groups : List (List AnnotatedReport)) (width : Nat) :
    renderText groups.flatten width = "\n".intercalate ((groups.map (renderText · width)).filter (· ≠ "")) := by
  induction groups with
  | nil => rfl
  | cons group groups ih =>
      rw [List.flatten_cons, List.map_cons]
      by_cases hgroup : group = []
      · rw [hgroup, List.nil_append, ih, List.filter_cons_of_neg (by simp [renderText_eq_empty_iff])]
      · rw [List.filter_cons_of_pos (by simpa [renderText_eq_empty_iff] using hgroup)]
        by_cases hrest : groups.flatten = []
        · -- no other group has a report
          have hnone : (groups.map (renderText · width)).filter (· ≠ "") = [] := by
            refine List.filter_eq_nil_iff.2 fun text htext => ?_
            obtain ⟨other, hother, rfl⟩ := List.mem_map.1 htext
            simpa [renderText_eq_empty_iff] using List.flatten_eq_nil_iff.1 hrest other hother
          rw [hrest, List.append_nil, hnone, String.intercalate_singleton]
        · have hsome : (groups.map (renderText · width)).filter (· ≠ "") ≠ [] := by
            intro h
            rw [h] at ih
            exact hrest (renderText_eq_empty_iff.1 ih)
          rw [renderText_append hgroup hrest, ih, String.intercalate_cons_of_ne_nil hsome]

/-! ## JSON -/

/-- Each report is read as something, and an array of them as the array of these. -/
theorem exists_parse?_renderJson :
    ∃ item : AnnotatedReport → Json, ∀ reports,
      Json.parse? (renderJson reports ++ "\n") = some (.array (reports.map item)) := by
  have hread (r : AnnotatedReport) : ∃ v, Json.ReadAs 126 r.toJson v := by
    obtain ⟨v, hv, -⟩ := (AnnotatedReport.writable_toJson r.hasNumbers_isAny 121).exists_readAs
    exact ⟨v, hv⟩
  choose item hitem using hread
  refine ⟨item, fun reports => ?_⟩
  have hblanks : ∀ c ∈ ['\n'], Json.isBlank c = true := List.forall_mem_singleton.2 rfl
  have harray : Json.ReadAs 127 (.array (reports.map AnnotatedReport.toJson)) (.array (reports.map item)) :=
    Json.ReadAs.array fun r _ => hitem r
  have hparse := harray.parse?_chars Json.Layout.pretty hblanks
  rw [String.ofList_append] at hparse
  exact hparse

end DefectTrail
