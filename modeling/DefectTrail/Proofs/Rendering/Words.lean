import DefectTrail.Proofs.Annotation.NodeSequence
import DefectTrail.Proofs.Config.Validity
import DefectTrail.Proofs.Step.Range
import Mathlib.Algebra.GroupWithZero.Nat

/-!
# Words are wide enough

Levels and positions are exact numbers here. A machine keeps them in 64-bit words, which would wrap around on a path
that is long enough; on any path of fewer than `2 ^ 59` events they do not, nor does the product that a step is indented
by.

* `PathWords`, `wordsAt` : the words kept on the way, with wrapping arithmetic;
* `toInt_add_one`, `toInt_sub_one` : where one step does not wrap; `PathWords.toInt_level_after`,
  `PathWords.toNat_steps_after` : where a path does not;
* `toInt_level_wordsAt`, `toNat_steps_wordsAt`, `toNat_steps_of_mem_mismatches` : the words on an annotated path;
* `width_mul_level_lt`, `PathWords.toNat_indent` : where the product does not wrap; `DisplayNode.IsTyped.line?_of_step` :
  the line that it goes into;
* `numbers_stay_within_words` : the statement as a whole.
-/

namespace DefectTrail

/-! ## Words -/

/-- What is kept in words on the way along a path: the level, and the number of steps taken. -/
structure PathWords where
  level : Int64
  steps : UInt64

namespace PathWords

def start : PathWords := ⟨0, 0⟩

/-- The words after a step with the given icon. -/
def next (w : PathWords) (icon : StepIcon) : PathWords where
  level := if icon = .enteredCall then w.level + 1 else if icon = .returning then w.level - 1 else w.level
  steps := w.steps + 1

/-- The words after steps with the given icons. -/
def after (icons : List StepIcon) : PathWords := icons.foldl next start

/-- The number of spaces for the level; below zero there are none. -/
def indent (w : PathWords) (width : UInt64) : UInt64 := width * (if w.level < 0 then 0 else w.level).toUInt64

@[simp] theorem after_nil : after [] = start := rfl

@[simp] theorem after_concat (icons : List StepIcon) (icon : StepIcon) :
    after (icons ++ [icon]) = (after icons).next icon :=
  List.foldl_concat ..

end PathWords

theorem toInt_add_one {a : Int64} (h : a.toInt < Int64.maxValue.toInt) : (a + 1).toInt = a.toInt + 1 := by
  have hmax : Int64.maxValue.toInt = 9223372036854775807 := rfl
  have hlo := a.le_toInt
  rw [Int64.toInt_add, Int64.toInt_one, Int.bmod_eq_of_le]
  · omega
  · omega

theorem toInt_sub_one {a : Int64} (h : Int64.minValue.toInt < a.toInt) : (a - 1).toInt = a.toInt - 1 := by
  have hmin : Int64.minValue.toInt = -9223372036854775808 := rfl
  have hhi := a.toInt_lt
  rw [Int64.toInt_sub, Int64.toInt_one, Int.bmod_eq_of_le]
  · omega
  · omega

namespace PathWords

/-- The exact level after steps with the given icons. -/
def exactLevel (icons : List StepIcon) : Int := (icons.count .enteredCall : Int) - icons.count .returning

theorem exactLevel_bounds (icons : List StepIcon) :
    -(icons.length : Int) ≤ exactLevel icons ∧ exactLevel icons ≤ icons.length := by
  have hentered : icons.count .enteredCall ≤ icons.length := List.count_le_length
  have hreturned : icons.count .returning ≤ icons.length := List.count_le_length
  unfold exactLevel
  omega

theorem exactLevel_concat (icons : List StepIcon) (icon : StepIcon) :
    exactLevel (icons ++ [icon]) = exactLevel icons + icon.levelChange := by
  rw [exactLevel, List.count_append, List.count_append, exactLevel]
  cases icon <;> simp [StepIcon.levelChange] <;> omega

/-- A step does not wrap where there is room on both sides of the level. -/
theorem toInt_level_next {w : PathWords} (icon : StepIcon) (hlo : Int64.minValue.toInt < w.level.toInt)
    (hhi : w.level.toInt < Int64.maxValue.toInt) : (w.next icon).level.toInt = w.level.toInt + icon.levelChange := by
  unfold next
  cases icon with
  | enteredCall => exact toInt_add_one hhi
  | returning => exact toInt_sub_one hlo
  | _ => exact (Int.add_zero _).symm

theorem toInt_level_after {icons : List StepIcon} (h : icons.length ≤ Int64.maxValue.toInt) :
    (after icons).level.toInt = exactLevel icons := by
  induction icons using List.reverseRecOn with
  | nil => rfl
  | append_singleton icons icon ih =>
      rw [List.length_append, List.length_singleton] at h
      have hmax : Int64.maxValue.toInt = 9223372036854775807 := rfl
      have hmin : Int64.minValue.toInt = -9223372036854775808 := rfl
      obtain ⟨hlo, hhi⟩ := exactLevel_bounds icons
      have hlevel := ih (by omega)
      rw [after_concat, toInt_level_next icon (by omega) (by omega), hlevel, exactLevel_concat]

theorem toNat_steps_after {icons : List StepIcon} (h : icons.length < UInt64.size) :
    (after icons).steps.toNat = icons.length := by
  induction icons using List.reverseRecOn with
  | nil => rfl
  | append_singleton icons icon ih =>
      rw [List.length_append, List.length_singleton] at h
      rw [after_concat, List.length_append, List.length_singleton, next, UInt64.toNat_add, ih (by omega)]
      exact Nat.mod_eq_of_lt h

theorem toNat_indent {w : PathWords} {width : Nat} (h : width * w.level.toInt.toNat < UInt64.size)
    (hwidth : width < UInt64.size) : (w.indent (UInt64.ofNat width)).toNat = width * w.level.toInt.toNat := by
  have hlevel : (if w.level < 0 then 0 else w.level).toUInt64.toNat = w.level.toInt.toNat := by
    split
    · next hneg =>
        have hneg' : w.level.toInt < 0 := Int64.lt_iff_toInt_lt.1 hneg
        rw [Int.toNat_of_nonpos (Int.le_of_lt hneg')]
        rfl
    · next hnonneg =>
        rw [Int64.toNat_toUInt64_of_le (Int64.not_lt.1 hnonneg), Int64.toNat_toInt]
  rw [indent, UInt64.toNat_mul, UInt64.toNat_ofNat_of_lt' hwidth, hlevel]
  exact Nat.mod_eq_of_lt h

end PathWords

/-! ## Steps -/

/-- The spaces before a step are its level in units of the width, where the product fits a word. -/
theorem indentSpaces_eq {width : Nat} {level : Int} (h : width * level.toNat < UInt64.size) :
    indentSpaces width level = width * level.toNat :=
  Nat.mod_eq_of_lt h

section
variable {report : ReportSummary} {events : List Event} {options : AnnotateOptions}

/-- The words before the step at a position. -/
def wordsAt (report : ReportSummary) (events : List Event) (options : AnnotateOptions) (i : Nat) : PathWords :=
  .after (((annotatePathEvents report events options).steps.map (·.icon)).take i)

theorem length_take_icons {i : Nat} (h : i ≤ events.length) :
    (((annotatePathEvents report events options).steps.map (·.icon)).take i).length = i := by
  rw [List.length_take, List.length_map, length_steps, Nat.min_eq_left h]

theorem toNat_steps_wordsAt {i : Nat} (h : i ≤ events.length) (hsize : events.length < UInt64.size) :
    (wordsAt report events options i).steps.toNat = i := by
  rw [wordsAt, PathWords.toNat_steps_after, length_take_icons h]
  rw [length_take_icons h]
  exact Nat.lt_of_le_of_lt h hsize

/-- The level in the word is that of the step. -/
theorem toInt_level_wordsAt {i : Nat} {s : StepAnnotation}
    (h : (annotatePathEvents report events options).steps[i]? = some s)
    (hsize : events.length ≤ Int64.maxValue.toInt) :
    (wordsAt report events options (i + 1)).level.toInt = s.level := by
  obtain ⟨hi, -, -, -⟩ := number_and_level_of_getElem?_steps _ _ _ h
  obtain ⟨-, -, hlevel⟩ := icon_band_level_of_getElem?_steps report events options h
  rw [wordsAt, PathWords.toInt_level_after, hlevel, levelAt_eq report, PathWords.exactLevel]
  rw [length_take_icons hi]
  omega

/-- A step's level times an indent width stays below the size of a word. -/
theorem width_mul_level_lt {s : StepAnnotation} (h : s ∈ (annotatePathEvents report events options).steps)
    (hshort : events.length < 2 ^ 59) {width : Nat} (hwidth : width ≤ 16) :
    width * s.level.toNat < UInt64.size := by
  obtain ⟨i, hi⟩ := List.mem_iff_getElem?.1 h
  obtain ⟨hlt, -, -, hhi⟩ := number_and_level_of_getElem?_steps _ _ _ hi
  have hsize : UInt64.size = 18446744073709551616 := rfl
  have hle : width * s.level.toNat ≤ 16 * s.level.toNat := Nat.mul_le_mul_right _ hwidth
  omega

/-- The number of a step is one more than the word before it. -/
theorem toNat_steps_add_one {i : Nat} (h : i < events.length) (hsize : events.length < UInt64.size) :
    ((wordsAt report events options i).steps + 1).toNat = i + 1 := by
  rw [UInt64.toNat_add, toNat_steps_wordsAt (Nat.le_of_lt h) hsize]
  exact Nat.mod_eq_of_lt (Nat.lt_of_le_of_lt h hsize)

/-- A mismatch is the one at its position, which is the word there. -/
theorem toNat_steps_of_mem_mismatches {m : StackMismatch}
    (h : m ∈ (annotatePathEvents report events options).mismatches) (hsize : events.length < UInt64.size) :
    mismatchAt? options.stackRules (events.map (·.msg)) m.stepIndex = some m ∧
      (wordsAt report events options m.stepIndex).steps.toNat = m.stepIndex := by
  have hlt := stepIndex_lt_of_mem_mismatches _ _ _ h
  rw [mismatches_eq, List.mem_filterMap] at h
  obtain ⟨i, -, hi⟩ := h
  obtain rfl := stepIndex_of_mismatchAt? hi
  exact ⟨hi, toNat_steps_wordsAt (Nat.le_of_lt hlt) hsize⟩

end

open Text (spaces padLeft padRight)

/-- The line of a node with a step, where the product of width and level fits a word. -/
theorem DisplayNode.IsTyped.line?_of_step {n : DisplayNode} {s : StepAnnotation} (htyped : n.IsTyped)
    (hstep : n.step = some s) {width : Nat} (hfits : width * s.level.toNat < UInt64.size) :
    n.line? width = some ("    " ++ padLeft 3 (toString s.marker.index) ++ " " ++ padRight 5 s.marker.kind.wireName
      ++ " " ++ padRight 18 s.icon.label ++ " " ++ s.band ++ " " ++ spaces (width * s.level.toNat) ++ s.event.msg) := by
  have hkind := htyped.isSome_step_iff.1 (Option.isSome_of_mem hstep)
  obtain ⟨s', hs', hline⟩ := htyped.line?_step hkind width
  obtain rfl := Option.some.inj (hstep.symm.trans hs')
  rw [hline, ← indentSpaces_eq hfits]
  rfl

/-- **On a path of fewer than `2 ^ 59` events no number wraps around that is kept in a word.** -/
theorem numbers_stay_within_words [Glob.Compiler] (b : Bundle) (options : AnnotateOptions)
    (hshort : b.details.pathEvents.length < 2 ^ 59) :
    let r := (b.annotate options).value
    let icons := r.steps.map (·.icon)
    (∀ (i : Nat) (s : StepAnnotation), r.steps[i]? = some s →
      let words := PathWords.after (icons.take (i + 1))
      words.level.toInt = s.level ∧ -((i : Int) + 1) ≤ s.level ∧ s.level ≤ (i : Int) + 1 ∧
        s.level = ((icons.take (i + 1)).count .enteredCall : Int) - (icons.take (i + 1)).count .returning ∧
        s.marker.index = i + 1 ∧ ((PathWords.after (icons.take i)).steps + 1).toNat = s.marker.index ∧
        ∀ width, 1 ≤ width → width ≤ 16 → (words.indent (UInt64.ofNat width)).toNat = width * s.level.toNat) ∧
    (∀ m ∈ r.mismatches,
      mismatchAt? options.stackRules (b.details.pathEvents.map (·.msg)) m.stepIndex = some m ∧
        (PathWords.after (icons.take m.stepIndex)).steps.toNat = m.stepIndex) ∧
    (∀ width, 1 ≤ width → width ≤ 16 → ∀ n ∈ r.nodes, ∀ s, n.step = some s →
      n.line? width = some ("    " ++ padLeft 3 (toString s.marker.index) ++ " " ++ padRight 5 s.marker.kind.wireName
        ++ " " ++ padRight 18 s.icon.label ++ " " ++ s.band ++ " " ++ spaces (width * s.level.toNat) ++ s.event.msg) ∧
      (s.level < 0 → width * s.level.toNat = 0)) ∧
    ∀ (c : Config) (settings : Settings), c.resolve = .ok settings →
      1 ≤ settings.indentWidth ∧ settings.indentWidth ≤ 16 := by
  intro r icons
  have hsteps : r.steps = (annotatePathEvents b.report b.details.pathEvents options).steps := b.steps_annotate options
  have hwords (i : Nat) : wordsAt b.report b.details.pathEvents options i = .after (icons.take i) := by
    rw [wordsAt, ← hsteps]
  have hlevelFits : (b.details.pathEvents.length : Int) ≤ Int64.maxValue.toInt := by
    have hmax : Int64.maxValue.toInt = 9223372036854775807 := rfl
    omega
  have hstepsFit : b.details.pathEvents.length < UInt64.size := by
    have hsize : UInt64.size = 18446744073709551616 := rfl
    omega
  refine ⟨fun i s hs => ?_, fun m hm => ?_, fun width hpos hwidth n hn s hstep => ?_, fun c settings hresolve => ?_⟩
  · rw [hsteps] at hs
    obtain ⟨hi, hindex, hlo, hhi⟩ := number_and_level_of_getElem?_steps _ _ _ hs
    have hlevel := toInt_level_wordsAt hs hlevelFits
    have hnumber : ((wordsAt b.report b.details.pathEvents options i).steps + 1).toNat = i + 1 :=
      toNat_steps_add_one hi hstepsFit
    rw [hwords] at hlevel hnumber
    refine ⟨hlevel, by omega, by omega, ?_, hindex, hnumber.trans hindex.symm, fun width _ hwidth => ?_⟩
    · rw [← hlevel, PathWords.toInt_level_after, PathWords.exactLevel]
      rw [List.length_take]
      omega
    · have hfits := width_mul_level_lt (List.mem_of_getElem? hs) hshort hwidth
      rw [PathWords.toNat_indent, hlevel]
      · rwa [hlevel]
      · exact Nat.lt_of_le_of_lt hwidth (by decide)
  · rw [← hwords]
    exact toNat_steps_of_mem_mismatches hm hstepsFit
  · have hs : s ∈ (annotatePathEvents b.report b.details.pathEvents options).steps :=
      hsteps ▸ List.mem_filterMap.2 ⟨n, hn, hstep⟩
    refine ⟨(b.isTyped_of_mem_nodes options n hn).line?_of_step hstep (width_mul_level_lt hs hshort hwidth), ?_⟩
    intro hneg
    rw [Int.toNat_of_nonpos (Int.le_of_lt hneg), Nat.mul_zero]
  · exact (Settings.isSound_of_check (Config.check_of_resolve hresolve)).indentWidth

/-- A path that leaves the level below zero. -/
theorem numbers_stay_within_words_below_zero :
    let b : Bundle := ⟨⟨1, "m", ""⟩, [], ["Calling 'f'", "Entered call from 'g'", "Returning from 'f'",
      "Returned allocated memory"].map Event.bare⟩
    let r := (b.annotate .default).value
    b.details.pathEvents.length < 2 ^ 59 ∧ ∃ s, r.steps[3]? = some s ∧ s.level = -1 ∧
      (PathWords.after (r.steps.map (·.icon))).level.toInt = -1 ∧
      ((PathWords.after (r.steps.map (·.icon))).indent 16).toNat = 0 := by
  intro b r
  have hshort : b.details.pathEvents.length < 2 ^ 59 := by decide
  obtain ⟨hsteps, -⟩ := numbers_stay_within_words b .default hshort
  have hs : r.steps[3]? = some (r.steps.get ⟨3, by decide +kernel⟩) := List.getElem?_eq_getElem _
  obtain ⟨hlevel, -, -, -, -, -, hindent⟩ := hsteps 3 _ hs
  have hnegative : (r.steps.get ⟨3, by decide +kernel⟩).level = -1 := by decide +kernel
  have hall : (r.steps.map (·.icon)).take 4 = r.steps.map (·.icon) := by decide +kernel
  rw [hall] at hlevel hindent
  refine ⟨hshort, _, hs, hnegative, hlevel.trans hnegative, (hindent 16 (by decide) (by decide)).trans ?_⟩
  rw [hnegative]
  rfl

end DefectTrail
