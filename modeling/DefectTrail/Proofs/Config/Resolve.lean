import DefectTrail.Proofs.Config.Source

/-!
# What settings stand for

Settings that a configuration stands for have passed all its checks.

* `Config.check_eq_ok_iff` : the settings that the checks let through;
* `Config.exclude_of_check`, `Config.isHexColor_of_check` : the patterns and the colours of checked settings;
* `Config.refusal?`, `Config.resolve_of_check` : checked settings are what a configuration stands for, unless its
  patterns are refused;
* `Config.includes_iff` : which files settings include, said of the configuration's patterns.
-/

namespace DefectTrail.Config

variable {c : Config} {settings : Settings}

/-- The checks are those of the fields; the other settings are taken over. -/
theorem check_eq_ok_iff :
    c.check = .ok settings ↔
      checkField checkPalette Palette.default c.palette = .ok settings.palette ∧
        checkField checkFixitMarker AnnotateOptions.default.fixitMarker c.fixitMarker = .ok settings.fixitMarker ∧
        checkField checkIndentWidth defaultIndentWidth c.indentWidth = .ok settings.indentWidth ∧
        c.exclude.mapM checkPattern = .ok settings.exclude ∧
        settings.strictAllocationReturns = c.strictAllocationReturns.getD false ∧ settings.source = none := by
  constructor
  · intro h
    obtain ⟨palette, hpalette, h⟩ := exists_of_bind_eq_ok h
    obtain ⟨marker, hmarker, h⟩ := exists_of_bind_eq_ok h
    obtain ⟨width, hwidth, h⟩ := exists_of_bind_eq_ok h
    obtain ⟨exclude, hexclude, h⟩ := exists_of_bind_eq_ok h
    obtain rfl := Except.ok.inj h
    exact ⟨hpalette, hmarker, hwidth, hexclude, rfl, rfl⟩
  · rintro ⟨hpalette, hmarker, hwidth, hexclude, hstrict, hsource⟩
    simp only [check, hpalette, hmarker, hwidth, hexclude, ← hstrict, ← hsource]
    rfl

/-! ## Patterns -/

theorem checkPattern_eq_ok_iff {pattern : String} {glob : List Glob.Token} :
    checkPattern pattern = .ok glob ↔ Glob.parse? pattern = some glob := by
  unfold checkPattern
  cases Glob.parse? pattern <;> simp

theorem mapM_checkPattern_eq_ok {patterns : List String} {globs : List (List Glob.Token)}
    (h : patterns.mapM checkPattern = .ok globs) : patterns.map Glob.parse? = globs.map some := by
  induction patterns generalizing globs with
  | nil =>
      obtain rfl := Except.ok.inj h
      rfl
  | cons pattern patterns ih =>
      rw [List.mapM_cons] at h
      obtain ⟨glob, hglob, h⟩ := exists_of_bind_eq_ok h
      obtain ⟨rest, hrest, h⟩ := exists_of_bind_eq_ok h
      obtain rfl := Except.ok.inj h
      rw [List.map_cons, List.map_cons, checkPattern_eq_ok_iff.1 hglob, ih hrest]

theorem exclude_of_check (h : c.check = .ok settings) : settings.exclude = c.exclude.filterMap Glob.parse? := by
  have hmap := mapM_checkPattern_eq_ok (check_eq_ok_iff.1 h).2.2.2.1
  simpa [List.filterMap_map] using (congrArg (List.filterMap id) hmap).symm

/-- What holds of all checked patterns holds of all patterns that are given. -/
theorem forall_mem_exclude_iff (h : c.check = .ok settings) {p : List Glob.Token → Prop} :
    (∀ glob ∈ settings.exclude, p glob) ↔
      ∀ pattern ∈ c.exclude, ∀ glob, Glob.parse? pattern = some glob → p glob := by
  simp only [exclude_of_check h, List.mem_filterMap]
  constructor
  · exact fun h pattern hpattern glob hglob => h glob ⟨pattern, hpattern, hglob⟩
  · rintro h glob ⟨pattern, hpattern, hglob⟩
    exact h pattern hpattern glob hglob

/-- A file is included if no pattern of the configuration matches it. -/
theorem includes_iff (h : c.check = .ok settings) {path : Path} :
    settings.includes path = true ↔
      ∀ pattern ∈ c.exclude, ∀ glob, Glob.parse? pattern = some glob → Glob.accepts glob path.text = false := by
  rw [← forall_mem_exclude_iff h, Settings.includes, Bool.not_eq_true', List.any_eq_false]
  simp only [Bool.not_eq_true]

/-! ## Refused patterns -/

section
variable [Glob.Compiler]

/-- Why the patterns of a configuration are refused, if they are. -/
def refusal? (c : Config) : Option String := Glob.Compiler.refusal? (c.exclude.filterMap Glob.parse?)

theorem resolve_of_check (h : c.check = .ok settings) :
    c.resolve = c.refusal?.elim (.ok settings) fun reason => .error (.refusedPatterns reason) := by
  rw [refusal?, ← exclude_of_check h]
  simp only [resolve, h, bind, Except.bind]
  cases Glob.Compiler.refusal? settings.exclude <;> rfl

theorem resolve_eq_ok_iff : c.resolve = .ok settings ↔ c.check = .ok settings ∧ c.refusal? = none := by
  constructor
  · intro h
    obtain ⟨checked, hchecked, -⟩ := exists_of_bind_eq_ok h
    rw [resolve_of_check hchecked] at h
    cases hrefusal : c.refusal? with
    | some reason =>
        rw [hrefusal] at h
        cases h
    | none =>
        rw [hrefusal] at h
        obtain rfl := Except.ok.inj h
        exact ⟨hchecked, rfl⟩
  · rintro ⟨hcheck, haccepted⟩
    rw [resolve_of_check hcheck, haccepted]
    rfl

theorem check_of_resolve (h : c.resolve = .ok settings) : c.check = .ok settings := (resolve_eq_ok_iff.1 h).1

end

/-! ## Colours -/

theorem checkPalette_eq_ok_iff {colors : List String} {palette : Palette} :
    checkPalette colors = .ok palette ↔
      palette.colors = colors ∧ colors.length ≤ maxPaletteLength ∧ ∀ color ∈ colors, isHexColor color = true := by
  by_cases hnil : colors = []
  · have hnone : checkPalette colors = .error .emptyPalette := by rw [checkPalette, Palette.ofColors?, dif_pos hnil]
    rw [hnone]
    exact iff_of_false (fun h => by cases h) fun h => palette.colors_ne_nil (h.1.trans hnil)
  · have hsome : Palette.ofColors? colors = some ⟨colors, hnil⟩ := dif_neg hnil
    rw [checkPalette, hsome]
    show (if maxPaletteLength < colors.length then _ else _) = _ ↔ _
    split
    · next hlong => exact iff_of_false (fun h => by cases h) fun h => absurd h.2.1 (Nat.not_le.2 hlong)
    · next hshort =>
        rw [and_iff_right (Nat.not_lt.1 hshort)]
        split
        · next color index hbad =>
            refine iff_of_false (fun h => by cases h) fun h => ?_
            have hfound := List.find?_some hbad
            have hcolor : (!isHexColor color) = true := hfound
            rw [h.2 color (List.fst_mem_of_mem_zipIdx (List.mem_of_find?_eq_some hbad))] at hcolor
            cases hcolor
        · next hgood =>
            have hall : ∀ color ∈ colors, isHexColor color = true := by
              intro color hcolor
              obtain ⟨i, hi⟩ := List.mem_iff_getElem?.1 hcolor
              simpa using List.find?_eq_none.1 hgood (color, i) (List.mk_mem_zipIdx_iff_getElem?.2 hi)
            rw [and_iff_left hall]
            constructor
            · intro h
              obtain rfl := Except.ok.inj h
              rfl
            · rintro rfl
              rfl

/-- The colours of checked settings are hexadecimal. -/
theorem isHexColor_of_check (h : c.check = .ok settings) : ∀ color ∈ settings.palette.colors, isHexColor color = true := by
  have hpalette := (check_eq_ok_iff.1 h).1
  cases hcolors : c.palette with
  | none =>
      rw [hcolors, checkField] at hpalette
      rw [← Except.ok.inj hpalette]
      decide
  | some colors =>
      rw [hcolors, checkField] at hpalette
      obtain ⟨heq, -, hall⟩ := checkPalette_eq_ok_iff.1 hpalette
      rw [heq]
      exact hall

end DefectTrail.Config
