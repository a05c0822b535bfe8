/-!
# Lines

A text falls into lines at its line breaks; what follows the last one is a line too, and may be empty.

* `Text.lines_append_newline` : a line break between two texts separates their lines;
* `Text.lines_join` : texts that are followed by a line break each;
* `Text.lines_intercalate` : groups of such texts with an empty line between them;
* `Text.length_lines` : one line more than there are line breaks.
-/

namespace DefectTrail.Text

/-- The parts of a text between its line breaks. -/
def lines (text : String) : List String := (text.toList.splitOn '\n').map String.ofList

/-- The text has no line break. -/
def IsLine (text : String) : Prop := '\n' ∉ text.toList

instance (text : String) : Decidable (IsLine text) := inferInstanceAs (Decidable ('\n' ∉ text.toList))

theorem isLine_append_iff {s t : String} : IsLine (s ++ t) ↔ IsLine s ∧ IsLine t := by
  rw [IsLine, String.toList_append, List.mem_append, not_or]
  rfl

theorem IsLine.lines_eq {text : String} (h : IsLine text) : lines text = [text] := by
  rw [lines, List.splitOn_eq_singleton h, List.map_singleton, String.ofList_toList]

theorem one_le_length_lines (text : String) : 1 ≤ (lines text).length := by
  rw [lines, List.length_map]
  exact List.length_pos_iff.2 (List.splitOn_ne_nil '\n' text.toList)

theorem flatMap_lines_of_isLine {ls : List String} (h : ∀ l ∈ ls, IsLine l) : ls.flatMap lines = ls := by
  induction ls with
  | nil => rfl
  | cons l ls ih =>
      obtain ⟨hl, hls⟩ := List.forall_mem_cons.1 h
      rw [List.flatMap_cons, hl.lines_eq, ih hls, List.singleton_append]

theorem lines_append_newline (s t : String) : lines (s ++ "\n" ++ t) = lines s ++ lines t := by
  have hlist : (s ++ "\n" ++ t).toList = s.toList ++ '\n' :: t.toList := by simp
  rw [lines, hlist, List.splitOn_append_cons_self, List.map_append]
  rfl

theorem lines_join (ls : List String) : lines (String.join (ls.map (· ++ "\n"))) = ls.flatMap lines ++ [""] := by
  induction ls with
  | nil => rfl
  | cons l ls ih => rw [List.map_cons, String.join_cons, lines_append_newline, ih, List.flatMap_cons, List.append_assoc]

theorem lines_intercalate (groups : List (List String)) :
    lines ("\n".intercalate (groups.map fun ls => String.join (ls.map (· ++ "\n")))) =
      [""].intercalate (groups.map (·.flatMap lines)) ++ [""] := by
  induction groups with
  | nil => rfl
  | cons g groups ih =>
      cases groups with
      | nil =>
          rw [List.map_singleton, String.intercalate_singleton, lines_join, List.map_singleton,
            List.intercalate_singleton]
      | cons g' groups =>
          rw [List.map_cons] at ih
          rw [List.map_cons, List.map_cons, String.intercalate_cons_cons, lines_append_newline, lines_join, ih]
          rw [List.map_cons, List.map_cons, List.map_cons, List.intercalate_cons_cons]
          simp only [List.append_assoc]

/-! ## Numbers of lines -/

theorem length_lines (text : String) : (lines text).length = text.toList.count '\n' + 1 := by
  rw [lines, List.length_map]
  induction text.toList with
  | nil => rfl
  | cons c cs ih =>
      rw [List.splitOn_cons_eq_if_modifyHead, List.count_cons]
      by_cases hc : (c == '\n') = true
      · rw [if_pos hc, if_pos hc, List.length_cons, ih]
      · rw [if_neg hc, if_neg hc, List.length_modifyHead, ih]

theorem length_lines_eq_one_iff {text : String} : (lines text).length = 1 ↔ IsLine text := by
  rw [length_lines, Nat.add_eq_right, List.count_eq_zero]
  rfl

theorem length_le_length_flatMap_lines (ls : List String) : ls.length ≤ (ls.flatMap lines).length := by
  induction ls with
  | nil => exact Nat.le_refl 0
  | cons l ls ih =>
      rw [List.flatMap_cons, List.length_append, List.length_cons]
      have hpos := one_le_length_lines l
      omega

theorem length_flatMap_lines_eq_iff {ls : List String} :
    (ls.flatMap lines).length = ls.length ↔ ∀ l ∈ ls, IsLine l := by
  constructor
  · intro h
    induction ls with
    | nil => exact nofun
    | cons l ls ih =>
        rw [List.flatMap_cons, List.length_append, List.length_cons] at h
        have hpos := one_le_length_lines l
        have hle := length_le_length_flatMap_lines ls
        have hl : (lines l).length = 1 := by omega
        exact List.forall_mem_cons.2 ⟨length_lines_eq_one_iff.1 hl, ih (by omega)⟩
  · intro h
    rw [flatMap_lines_of_isLine h]

theorem length_intercalate_singleton (l : String) (groups : List (List String)) :
    ([l].intercalate groups).length = groups.flatten.length + (groups.length - 1) := by
  induction groups with
  | nil => rfl
  | cons g groups ih =>
      cases groups with
      | nil =>
          rw [List.intercalate_singleton, List.flatten_singleton]
          rfl
      | cons g' groups =>
          rw [List.intercalate_cons_cons, List.flatten_cons, List.length_append, List.length_append,
            List.length_append, ih]
          simp only [List.length_cons, List.length_nil]
          omega

end DefectTrail.Text
