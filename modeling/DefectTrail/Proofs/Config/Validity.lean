import DefectTrail.Proofs.Config.Resolve

/-!
# Valid configurations

A configuration is valid if each field that is given is.

* `Config.IsHexColor`, `Config.IsValid` : what colours and configurations are valid, said without the checks;
* `Config.fault?_eq_none_iff_isValid` : **no fault is found in a configuration if it is valid, and only then**;
* `Config.exists_resolve_eq_ok_iff` : a valid configuration stands for settings, unless its patterns are refused;
* `Config.isShallow_of_accepted` : patterns of too many levels are refused;
* `Config.values_of_check` : checked settings have the values that are given, and defaults in place of the others;
* `Settings.isSound_of_check` : what all checked settings are like.
-/

namespace DefectTrail

namespace Config

/-! ## Colours -/

/-- The digits of colours. -/
def hexDigits : List Char := "0123456789abcdefABCDEF".toList

/-- A hash sign and exactly three or six hexadecimal digits. -/
def IsHexColor (color : String) : Prop :=
  ∃ digits, color.toList = '#' :: digits ∧ (digits.length = 3 ∨ digits.length = 6) ∧ ∀ d ∈ digits, d ∈ hexDigits

theorem isHexDigit_iff {c : Char} : isHexDigit c = true ↔ c ∈ hexDigits := by
  have hascii : ∀ n < 128, isHexDigit (Char.ofNat n) = true ↔ Char.ofNat n ∈ hexDigits := by decide +kernel
  have hdigits : hexDigits.all (·.toNat < 128) = true := by decide
  by_cases hc : c.toNat < 128
  · have h := hascii c.toNat hc
    rwa [Char.ofNat_toNat] at h
  · refine iff_of_false (fun h => hc ?_) fun h => hc (of_decide_eq_true (List.all_eq_true.1 hdigits c h))
    simp only [isHexDigit, Char.isDigit, Bool.or_eq_true, Bool.and_eq_true, decide_eq_true_eq, Char.le_def,
      UInt32.le_iff_toNat_le] at h
    have hval : c.toNat = c.val.toNat := rfl
    rcases h with (⟨-, h⟩ | ⟨-, h⟩) | ⟨-, h⟩ <;> exact hval ▸ Nat.lt_of_le_of_lt h (by decide)

theorem isHexColor_iff {color : String} : isHexColor color = true ↔ IsHexColor color := by
  unfold isHexColor IsHexColor
  split
  · next digits hcolor =>
      simp only [hcolor, List.cons.injEq, true_and, exists_eq_left', Bool.and_eq_true, Bool.or_eq_true, beq_iff_eq,
        List.all_eq_true, isHexDigit_iff]
  · next hne =>
      refine iff_of_false Bool.false_ne_true ?_
      rintro ⟨digits, hcolor, -⟩
      exact hne digits hcolor

/-! ## Fields -/

/-- Each field that is given has a value that is allowed. -/
structure IsValid (c : Config) : Prop where
  palette : ∀ colors ∈ c.palette, 1 ≤ colors.length ∧ colors.length ≤ 32 ∧ ∀ color ∈ colors, IsHexColor color
  fixitMarker : ∀ marker ∈ c.fixitMarker, marker ≠ ""
  indentWidth : ∀ width ∈ c.indentWidth, 1 ≤ width ∧ width ≤ 16
  exclude : ∀ pattern ∈ c.exclude, Glob.parse? pattern ≠ none

theorem checkFixitMarker_eq_ok_iff {marker value : String} :
    checkFixitMarker marker = .ok value ↔ value = marker ∧ marker ≠ "" := by
  unfold checkFixitMarker
  split
  · next hempty => exact iff_of_false nofun fun h => h.2 hempty
  · next hne => rw [Except.ok.injEq, eq_comm, and_iff_left hne]

theorem checkIndentWidth_eq_ok_iff {width value : Nat} :
    checkIndentWidth width = .ok value ↔ value = width ∧ 1 ≤ width ∧ width ≤ maxIndentWidth := by
  unfold checkIndentWidth
  split
  · next hout =>
      refine iff_of_false nofun fun h => ?_
      omega
  · next hin =>
      rw [Except.ok.injEq]
      omega

/-- A field has its checked value, or the default where it is not given. -/
theorem checkField_eq_ok_iff {α β : Type} {check : α → Except Fault β} {default value : β} {field : Option α} :
    checkField check default field = .ok value ↔
      (field = none → value = default) ∧ ∀ a ∈ field, check a = .ok value := by
  cases field with
  | none =>
      rw [checkField, Except.ok.injEq, eq_comm]
      simp
  | some a =>
      rw [checkField]
      simp

theorem exists_checkField_eq_ok_iff {α β : Type} {check : α → Except Fault β} (default : β) {field : Option α} :
    (∃ value, checkField check default field = .ok value) ↔ ∀ a ∈ field, ∃ value, check a = .ok value := by
  cases field <;> simp [checkField]

theorem exists_checkPalette_eq_ok_iff {colors : List String} :
    (∃ palette, checkPalette colors = .ok palette) ↔
      1 ≤ colors.length ∧ colors.length ≤ 32 ∧ ∀ color ∈ colors, IsHexColor color := by
  simp only [checkPalette_eq_ok_iff, isHexColor_iff]
  constructor
  · rintro ⟨palette, rfl, hlength, hcolors⟩
    exact ⟨List.length_pos_iff.2 palette.colors_ne_nil, hlength, hcolors⟩
  · rintro ⟨hpos, hlength, hcolors⟩
    exact ⟨⟨colors, List.length_pos_iff.1 hpos⟩, rfl, hlength, hcolors⟩

theorem exists_mapM_checkPattern_eq_ok_iff {patterns : List String} :
    (∃ globs, patterns.mapM checkPattern = .ok globs) ↔ ∀ pattern ∈ patterns, Glob.parse? pattern ≠ none := by
  induction patterns with
  | nil => exact iff_of_true ⟨[], rfl⟩ (List.forall_mem_nil _)
  | cons pattern patterns ih =>
      rw [List.forall_mem_cons, ← ih, List.mapM_cons]
      cases hpattern : Glob.parse? pattern with
      | none =>
          have hbad : checkPattern pattern = .error (.badPattern pattern) := by rw [checkPattern, hpattern]
          rw [hbad]
          exact iff_of_false nofun fun h => h.1 rfl
      | some glob =>
          rw [checkPattern_eq_ok_iff.2 hpattern, and_iff_right nofun]
          cases patterns.mapM checkPattern with
          | error fault => exact iff_of_false nofun nofun
          | ok globs => exact iff_of_true ⟨_, rfl⟩ ⟨_, rfl⟩

/-! ## Whole configurations -/

variable {c : Config}

/-- **No fault is found in a configuration if it is valid, and only then.** -/
theorem fault?_eq_none_iff_isValid : c.fault? = none ↔ c.IsValid := by
  rw [fault?_eq_none_iff]
  constructor
  · rintro ⟨settings, h⟩
    obtain ⟨hpalette, hmarker, hwidth, hexclude, -, -⟩ := check_eq_ok_iff.1 h
    refine ⟨fun colors hcolors => ?_, fun marker hgiven => ?_, fun width hgiven => ?_, ?_⟩
    · exact exists_checkPalette_eq_ok_iff.1 ⟨_, (checkField_eq_ok_iff.1 hpalette).2 colors hcolors⟩
    · exact (checkFixitMarker_eq_ok_iff.1 ((checkField_eq_ok_iff.1 hmarker).2 marker hgiven)).2
    · exact (checkIndentWidth_eq_ok_iff.1 ((checkField_eq_ok_iff.1 hwidth).2 width hgiven)).2
    · exact exists_mapM_checkPattern_eq_ok_iff.1 ⟨_, hexclude⟩
  · rintro ⟨hpalette, hmarker, hwidth, hexclude⟩
    obtain ⟨palette, hpalette⟩ := (exists_checkField_eq_ok_iff Palette.default).2 fun colors hcolors =>
      exists_checkPalette_eq_ok_iff.2 (hpalette colors hcolors)
    obtain ⟨marker, hmarker⟩ := (exists_checkField_eq_ok_iff AnnotateOptions.default.fixitMarker).2
      fun marker hgiven => ⟨marker, checkFixitMarker_eq_ok_iff.2 ⟨rfl, hmarker marker hgiven⟩⟩
    obtain ⟨width, hwidth⟩ := (exists_checkField_eq_ok_iff defaultIndentWidth).2
      fun width hgiven => ⟨width, checkIndentWidth_eq_ok_iff.2 ⟨rfl, hwidth width hgiven⟩⟩
    obtain ⟨exclude, hexclude⟩ := exists_mapM_checkPattern_eq_ok_iff.2 hexclude
    exact ⟨⟨palette, marker, c.strictAllocationReturns.getD false, width, exclude, none⟩,
      check_eq_ok_iff.2 ⟨hpalette, hmarker, hwidth, hexclude, rfl, rfl⟩⟩

section
variable [Glob.Compiler]

theorem exists_resolve_eq_ok_iff : (∃ settings, c.resolve = .ok settings) ↔ c.IsValid ∧ c.refusal? = none := by
  simp only [resolve_eq_ok_iff]
  rw [exists_and_right, ← fault?_eq_none_iff, fault?_eq_none_iff_isValid]

theorem resolve_of_refusal? (hvalid : c.IsValid) {reason : String} (hrefused : c.refusal? = some reason) :
    c.resolve = .error (.refusedPatterns reason) := by
  obtain ⟨settings, hcheck⟩ := fault?_eq_none_iff.1 (fault?_eq_none_iff_isValid.2 hvalid)
  rw [resolve_of_check hcheck, hrefused]
  rfl

/-- No pattern has more levels than a glob may have, of which the whole pattern is one. -/
def IsShallow (c : Config) : Prop :=
  ∀ pattern ∈ c.exclude, ∀ glob, Glob.parse? pattern = some glob → 1 + Glob.tokensLevels glob ≤ Glob.maxLevels

theorem isShallow_of_accepted (h : c.refusal? = none) : c.IsShallow := by
  intro pattern hpattern glob hglob
  exact Glob.tooDeep_eq_false_iff.1 <|
    Glob.Compiler.tooDeep_of_accepted h glob (List.mem_filterMap.2 ⟨pattern, hpattern, hglob⟩)

end

/-- Where nesting alone is looked at, no other patterns are refused. -/
theorem refusal?_eq_none_iff_isShallow : c.refusal? = none ↔ c.IsShallow := by
  refine Glob.Compiler.nestingRefusal?_eq_none_iff.trans ?_
  simp only [Glob.tooDeep_eq_false_iff, List.mem_filterMap]
  exact ⟨fun h pattern hpattern glob hglob => h glob ⟨pattern, hpattern, hglob⟩,
    fun h glob ⟨pattern, hpattern, hglob⟩ => h pattern hpattern glob hglob⟩

/-! ## Values of checked settings -/

/-- Where a check keeps what it lets through, a checked field has the value that is given, or the default. -/
theorem getD_of_checkField {α β : Type} {check : α → Except Fault β} {default value : β} {field : Option α}
    (view : β → α) (hview : ∀ {a b}, check a = .ok b → view b = a) (h : checkField check default field = .ok value) :
    view value = field.getD (view default) := by
  rw [checkField_eq_ok_iff] at h
  cases field with
  | none => rw [h.1 rfl, Option.getD_none]
  | some a => rw [hview (h.2 a rfl), Option.getD_some]

theorem values_of_check {settings : Settings} (h : c.check = .ok settings) :
    settings.palette.colors = c.palette.getD Palette.default.colors ∧
      settings.fixitMarker = c.fixitMarker.getD " (fixit)" ∧ settings.indentWidth = c.indentWidth.getD 2 ∧
      settings.strictAllocationReturns = c.strictAllocationReturns.getD false := by
  obtain ⟨hpalette, hmarker, hwidth, -, hstrict, -⟩ := check_eq_ok_iff.1 h
  refine ⟨?_, ?_, ?_, hstrict⟩
  · exact getD_of_checkField Palette.colors (fun h => (checkPalette_eq_ok_iff.1 h).1) hpalette
  · exact getD_of_checkField id (fun h => (checkFixitMarker_eq_ok_iff.1 h).1) hmarker
  · exact getD_of_checkField id (fun h => (checkIndentWidth_eq_ok_iff.1 h).1) hwidth

end Config

namespace Settings

/-- There are colours, no more than 32, and all hexadecimal; there is a fix-it marker; and the indent width lies between
1 and 16. -/
structure IsSound (s : Settings) : Prop where
  palette : 1 ≤ s.palette.colors.length ∧ s.palette.colors.length ≤ 32 ∧
    ∀ color ∈ s.palette.colors, Config.IsHexColor color
  fixitMarker : s.fixitMarker ≠ ""
  indentWidth : 1 ≤ s.indentWidth ∧ s.indentWidth ≤ 16

theorem isSound_of_check {c : Config} {s : Settings} (h : c.check = .ok s) : s.IsSound := by
  have hvalid : c.IsValid := Config.fault?_eq_none_iff_isValid.1 (Config.fault?_eq_none_iff.2 ⟨s, h⟩)
  obtain ⟨hpalette, hmarker, hwidth, -⟩ := Config.values_of_check h
  refine ⟨?_, ?_, ?_⟩
  · rw [hpalette]
    cases hgiven : c.palette with
    | none =>
        have hhex : ∀ color ∈ Palette.default.colors, Config.isHexColor color = true := by decide
        exact ⟨by decide, by decide, fun color hcolor => Config.isHexColor_iff.1 (hhex color hcolor)⟩
    | some colors => exact hvalid.palette colors hgiven
  · rw [hmarker]
    cases hgiven : c.fixitMarker with
    | none => exact (by decide : " (fixit)" ≠ "")
    | some marker => exact hvalid.fixitMarker marker hgiven
  · rw [hwidth]
    cases hgiven : c.indentWidth with
    | none => exact ⟨by decide, by decide⟩
    | some width => exact hvalid.indentWidth width hgiven

end Settings

end DefectTrail
