import DefectTrail.Proofs.Config.Codec
import DefectTrail.Proofs.Config.Validity

/-!
# Which configurations are loaded

The settings of a directory come from one source, which has to be valid by itself, before other values are put in the
place of its own. A source that is bad ends the loading, whatever is put in the place of its values.

* `Config.source?` : the file that is named, or the first of two names that exists in the directory;
* `Config.GivenBy` : the configuration that a source gives, if it is not bad;
* `Config.givenBy_iff` : `Config.loadFor` accepts exactly these;
* `settings_load_from_valid_sources_only` : **which settings are loaded, and from what**;
  `valid_configuration_with_deep_pattern` : a valid configuration that is not loaded.
-/

namespace DefectTrail

namespace Config

/-- The file that is named, or the first of two names that exists in the directory. -/
def source? (disk : Disk) (directory : Path) (path : Option Path) : Option Path :=
  path <|>
    if disk.exists? (Path.join directory ".bugpathrc.json") then some (Path.join directory ".bugpathrc.json")
    else if disk.exists? (Path.join directory "bugpath.config.json") then
      some (Path.join directory "bugpath.config.json")
    else none

/-- A file gives the configuration that it is read as, if that is valid by itself; without a file nothing is given. -/
inductive GivenBy (disk : Disk) : Option Path → Config → Prop where
  | nothing : GivenBy disk none empty
  | file {file : Path} {text : String} {c : Config} (readable : disk.read? file = some text)
      (decoded : (Json.parse? text).bind ofJson? = some c) (valid : c.IsValid) : GivenBy disk (some file) c

variable {disk : Disk} {directory file : Path} {path : Option Path} {c : Config}

theorem source?_eq (disk : Disk) (directory : Path) (path : Option Path) :
    source? disk directory path = (path <|> discover? disk directory) := by
  rw [source?, discover?, sourceNames, List.map_cons, List.map_cons, List.map_nil, List.find?_cons, List.find?_cons]
  cases disk.exists? (Path.join directory ".bugpathrc.json") <;>
  cases disk.exists? (Path.join directory "bugpath.config.json") <;> rfl

theorem givenBy_file_iff : GivenBy disk (some file) c ↔ load disk file = .ok c := by
  rw [load_eq_ok_iff]
  constructor
  · intro h
    cases h with
    | file readable decoded valid => exact ⟨_, readable, decoded, fault?_eq_none_iff_isValid.2 valid⟩
  · rintro ⟨text, readable, decoded, valid⟩
    exact .file readable decoded (fault?_eq_none_iff_isValid.1 valid)

theorem givenBy_nothing_iff : GivenBy disk none c ↔ c = empty := by
  constructor
  · intro h
    cases h
    rfl
  · rintro rfl
    exact .nothing

/-- What is loaded for a directory is what its source gives. -/
theorem loadFor_eq_ok_iff {source : Option Path} :
    loadFor disk directory path = .ok (c, source) ↔
      source = source? disk directory path ∧ GivenBy disk source c := by
  rw [source?_eq, loadFor]
  cases path <|> discover? disk directory with
  | none =>
      rw [Except.ok.injEq, Prod.mk.injEq, eq_comm (a := empty), eq_comm (a := none), and_comm]
      exact and_congr_right fun h => h ▸ givenBy_nothing_iff.symm
  | some file =>
      show (load disk file).map _ = _ ↔ _
      cases hload : load disk file with
      | error failure =>
          refine iff_of_false (fun h => by cases h) ?_
          rintro ⟨rfl, h⟩
          rw [givenBy_file_iff, hload] at h
          cases h
      | ok config =>
          rw [Except.map, Except.ok.injEq, Prod.mk.injEq, eq_comm (a := some file), and_comm]
          refine and_congr_right fun h => ?_
          rw [h, givenBy_file_iff, hload, Except.ok.injEq]

/-! ## Bad sources -/

/-- A source that gives nothing is a file, and its failure names it. -/
theorem exists_failure_of_not_givenBy (h : ¬ ∃ c, GivenBy disk (some file) c) :
    ∃ failure, load disk file = .error failure ∧
      (failure = .unreadableConfig file ∨ failure = .malformedConfig file ∨
        ∃ fault, failure = .badConfig file fault) := by
  cases hload : load disk file with
  | ok c => exact absurd ⟨c, givenBy_file_iff.2 hload⟩ h
  | error failure =>
      refine ⟨failure, rfl, ?_⟩
      rw [load] at hload
      cases hread : disk.read? file with
      | none =>
          simp only [hread] at hload
          exact .inl (Except.error.inj hload).symm
      | some text =>
          cases hdecoded : (Json.parse? text).bind ofJson? with
          | none =>
              simp only [hread, hdecoded] at hload
              exact .inr (.inl (Except.error.inj hload).symm)
          | some c =>
              cases hfault : c.fault? with
              | none =>
                  simp only [hread, hdecoded, hfault] at hload
                  cases hload
              | some fault =>
                  simp only [hread, hdecoded, hfault] at hload
                  exact .inr (.inr ⟨fault, (Except.error.inj hload).symm⟩)

/-! ## Settings -/

variable {overrides : Overrides}

section
variable [Glob.Compiler]

/-- Settings are loaded if a source gives a configuration that stands for them with the given values in place. -/
theorem settings_load_eq_ok_iff {settings : Settings} :
    Settings.load disk directory path overrides = .ok settings ↔
      settings.source = source? disk directory path ∧
        ∃ c checked, GivenBy disk settings.source c ∧ (c.override overrides).resolve = .ok checked ∧
          settings = { checked with source := settings.source } := by
  rw [settings_load_eq]
  constructor
  · intro h
    obtain ⟨⟨c, source⟩, hfor, h⟩ := exists_of_bind_eq_ok h
    cases hresolve : (c.override overrides).resolve with
    | error fault =>
        rw [hresolve] at h
        cases h
    | ok checked =>
        rw [hresolve] at h
        obtain rfl := Except.ok.inj h
        obtain ⟨hsource, hgiven⟩ := loadFor_eq_ok_iff.1 hfor
        exact ⟨hsource, c, checked, hgiven, hresolve, rfl⟩
  · rintro ⟨hsource, c, checked, hgiven, hresolve, hsettings⟩
    rw [loadFor_eq_ok_iff.2 ⟨hsource, hgiven⟩, Except.bind, hresolve, hsettings]
    rfl

/-- Patterns that are refused are the failure of a configuration that is valid. -/
theorem settings_load_of_refusal? (hgiven : GivenBy disk (source? disk directory path) c)
    (hvalid : (c.override overrides).IsValid) {reason : String} (hrefused : c.refusal? = some reason) :
    Settings.load disk directory path overrides = .error (.badSettings (.refusedPatterns reason)) := by
  have hrefused' : (c.override overrides).refusal? = some reason := hrefused
  rw [settings_load_eq, loadFor_eq_ok_iff.2 ⟨rfl, hgiven⟩, Except.bind, resolve_of_refusal? hvalid hrefused']
  rfl

end

theorem getD_strict_override : (c.override overrides).strictAllocationReturns.getD false = true ↔
    overrides.strictAllocationReturns = true ∨ c.strictAllocationReturns = some true := by
  rw [override]
  by_cases h : overrides.strictAllocationReturns = true
  · simp [h]
  · rw [if_neg h, or_iff_right h]
    cases c.strictAllocationReturns <;> simp

end Config

open Config in
/-- **Settings are loaded from valid configurations only, from each of them whose patterns are not refused, and from
no other place than their source.** Patterns of too many levels are always refused. -/
theorem settings_load_from_valid_sources_only [Glob.Compiler] (disk : Disk) (directory : Path) (path : Option Path)
    (overrides : Overrides) :
    ((∃ settings, Settings.load disk directory path overrides = .ok settings) ↔
      ∃ c, GivenBy disk (source? disk directory path) c ∧ (c.override overrides).IsValid ∧ c.refusal? = none) ∧
    (∀ c : Config, c.refusal? = none → c.IsShallow) ∧
    (∀ c reason, GivenBy disk (source? disk directory path) c → (c.override overrides).IsValid →
      c.refusal? = some reason →
      Settings.load disk directory path overrides = .error (.badSettings (.refusedPatterns reason))) ∧
    (∀ file, source? disk directory path = some file → (¬ ∃ c, GivenBy disk (some file) c) →
      ∃ failure, (failure = .unreadableConfig file ∨ failure = .malformedConfig file ∨
        ∃ fault, failure = .badConfig file fault) ∧
        ∀ others, Settings.load disk directory path others = .error failure) ∧
    ∀ settings, Settings.load disk directory path overrides = .ok settings →
      settings.IsSound ∧ settings.source = source? disk directory path ∧
      ∃ c, GivenBy disk settings.source c ∧
        settings.palette.colors = (overrides.palette <|> c.palette).getD Palette.default.colors ∧
        settings.fixitMarker = (overrides.fixitMarker <|> c.fixitMarker).getD " (fixit)" ∧
        settings.indentWidth = (overrides.indentWidth <|> c.indentWidth).getD 2 ∧
        (settings.strictAllocationReturns = true ↔
          overrides.strictAllocationReturns = true ∨ c.strictAllocationReturns = some true) ∧
        ∀ file, settings.includes file = true ↔
          ∀ pattern ∈ c.exclude, ∀ glob, Glob.parse? pattern = some glob → Glob.accepts glob file.text = false := by
  refine ⟨?_, fun c => isShallow_of_accepted, fun c reason hgiven hvalid => settings_load_of_refusal? hgiven hvalid,
    fun file hsource hbad => ?_, fun settings hload => ?_⟩
  · constructor
    · rintro ⟨settings, hload⟩
      obtain ⟨hsource, c, checked, hgiven, hresolve, -⟩ := settings_load_eq_ok_iff.1 hload
      obtain ⟨hvalid, haccepted⟩ := exists_resolve_eq_ok_iff.1 ⟨checked, hresolve⟩
      exact ⟨c, hsource ▸ hgiven, hvalid, haccepted⟩
    · rintro ⟨c, hgiven, hvalid, haccepted⟩
      obtain ⟨checked, hresolve⟩ := exists_resolve_eq_ok_iff.2 ⟨hvalid, haccepted⟩
      exact ⟨{ checked with source := source? disk directory path },
        settings_load_eq_ok_iff.2 ⟨rfl, c, checked, hgiven, hresolve, rfl⟩⟩
  · obtain ⟨failure, hfailure, hkind⟩ := exists_failure_of_not_givenBy hbad
    rw [source?_eq] at hsource
    refine ⟨failure, hkind, fun others => ?_⟩
    rw [settings_load_of_source directory path others hsource, hfailure]
    rfl
  · obtain ⟨hsource, c, checked, hgiven, hresolve, hsettings⟩ := settings_load_eq_ok_iff.1 hload
    have hcheck := check_of_resolve hresolve
    obtain ⟨hpalette, hmarker, hwidth, hstrict⟩ := values_of_check hcheck
    have hsound : checked.IsSound := Settings.isSound_of_check hcheck
    rw [hsettings]
    exact ⟨⟨hsound.palette, hsound.fixitMarker, hsound.indentWidth⟩, hsource, c, hgiven, hpalette, hmarker, hwidth,
      hstrict ▸ getD_strict_override, fun file => includes_iff hcheck⟩

/-- A directory with a configuration file of the given text. -/
def Disk.withConfig (text : String) : Disk :=
  ⟨.directory [("p", .directory [(".bugpathrc.json", .file (some text))])], "/p"⟩

open Config in
/-- A file whose width is kept beside a given marker, and one whose width is not allowed, where another is given. -/
theorem settings_load_from_valid_sources_only_widths :
    (∃ settings, Settings.load (Disk.withConfig "\x7b\"indent_width\": 3\x7d") "/p" none ⟨none, some "!", false, none⟩ =
      .ok settings ∧ settings.fixitMarker = "!" ∧ settings.indentWidth = 3) ∧
    ∃ failure, Settings.load (Disk.withConfig "\x7b\"indent_width\": 0\x7d") "/p" none ⟨none, none, false, some 4⟩ =
      .error failure := by
  constructor
  · have hsource : source? (Disk.withConfig "\x7b\"indent_width\": 3\x7d") "/p" none =
        some (.ofString "/p/.bugpathrc.json") := by
      decide +kernel
    have hvalid : (⟨none, none, none, some 3, []⟩ : Config).IsValid :=
      fault?_eq_none_iff_isValid.1 (by decide +kernel)
    have hgiven : GivenBy (Disk.withConfig "\x7b\"indent_width\": 3\x7d") (some (.ofString "/p/.bugpathrc.json"))
        ⟨none, none, none, some 3, []⟩ :=
      .file (show _ = some "\x7b\"indent_width\": 3\x7d" by rfl) (by decide +kernel) hvalid
    have hoverridden : ((⟨none, none, none, some 3, []⟩ : Config).override ⟨none, some "!", false, none⟩).IsValid :=
      fault?_eq_none_iff_isValid.1 (by decide +kernel)
    obtain ⟨hiff, -, -, -, hvalues⟩ := settings_load_from_valid_sources_only
      (Disk.withConfig "\x7b\"indent_width\": 3\x7d") "/p" none ⟨none, some "!", false, none⟩
    obtain ⟨settings, hload⟩ := hiff.2 ⟨_, hsource ▸ hgiven, hoverridden, rfl⟩
    obtain ⟨-, hfrom, c, hc, -, hmarker, hwidth, -⟩ := hvalues settings hload
    rw [hfrom, hsource, givenBy_file_iff] at hc
    obtain rfl := Except.ok.inj (hc.symm.trans (givenBy_file_iff.1 hgiven))
    exact ⟨settings, hload, hmarker, hwidth⟩
  · have hsource : source? (Disk.withConfig "\x7b\"indent_width\": 0\x7d") "/p" none =
        some (.ofString "/p/.bugpathrc.json") := by
      decide +kernel
    have hbad : ¬ ∃ c, GivenBy (Disk.withConfig "\x7b\"indent_width\": 0\x7d")
        (some (.ofString "/p/.bugpathrc.json")) c := by
      rintro ⟨c, hc⟩
      have hload : load (Disk.withConfig "\x7b\"indent_width\": 0\x7d") "/p/.bugpathrc.json" =
          .error (.badConfig "/p/.bugpathrc.json" (.indentWidthOutOfRange 0)) := by decide +kernel
      rw [givenBy_file_iff, hload] at hc
      cases hc
    obtain ⟨-, -, -, hfails, -⟩ := settings_load_from_valid_sources_only
      (Disk.withConfig "\x7b\"indent_width\": 0\x7d") "/p" none .none
    obtain ⟨failure, -, hfailure⟩ := hfails _ hsource hbad
    exact ⟨failure, hfailure _⟩

/-! ## A valid configuration that is not loaded -/

namespace Config

/-- A letter inside 250 groups. -/
def deepChars : List Char := List.replicate 250 '{' ++ 'a' :: List.replicate 250 '}'

def deepPattern : String := String.ofList deepChars

/-- The configuration that excludes what this pattern matches. -/
def deep : Config := ⟨none, none, none, none, [deepPattern]⟩

theorem exists_glob_deepPattern : ∃ glob, Glob.parse? deepPattern = some glob ∧
    Glob.Compiler.nestingRefusal? [glob] = some "error parsing pattern 0" := by
  have h : (Glob.scan .start none deepChars).map (fun glob => Glob.Compiler.nestingRefusal? [glob]) =
      some (some "error parsing pattern 0") := by
    decide +kernel
  rw [Glob.parse?, deepPattern, String.toList_ofList]
  exact Option.map_eq_some_iff.1 h

theorem isValid_deep : deep.IsValid := by
  refine ⟨nofun, nofun, nofun, fun pattern hpattern => ?_⟩
  obtain ⟨glob, hglob, -⟩ := exists_glob_deepPattern
  rw [List.mem_singleton.1 hpattern, hglob]
  exact Option.some_ne_none glob

theorem refusal?_deep : deep.refusal? = some "error parsing pattern 0" := by
  obtain ⟨glob, hglob, hrefused⟩ := exists_glob_deepPattern
  rw [refusal?, deep, List.filterMap_cons_some hglob]
  exact hrefused

theorem source?_deep :
    source? (Disk.withConfig deep.toJson.compact) "/p" none = some (.ofString "/p/.bugpathrc.json") := by
  decide +kernel

theorem givenBy_deep : GivenBy (Disk.withConfig deep.toJson.compact) (some (.ofString "/p/.bugpathrc.json")) deep := by
  have hwidth : ∀ width ∈ deep.indentWidth, width < UInt64.size := fun width h => absurd h (Option.not_mem_none width)
  have hdecoded := parse?_write deep List.mem_cons_self
  rw [if_pos hwidth] at hdecoded
  exact .file (show _ = some deep.toJson.compact by rfl) hdecoded isValid_deep

end Config

open Config in
/-- A configuration that is valid by itself, with nothing put in the place of its values, and is not loaded. -/
theorem valid_configuration_with_deep_pattern :
    GivenBy (Disk.withConfig deep.toJson.compact) (source? (Disk.withConfig deep.toJson.compact) "/p" none) deep ∧
      (deep.override .none).IsValid ∧
      Settings.load (Disk.withConfig deep.toJson.compact) "/p" none .none =
        .error (.badSettings (.refusedPatterns "error parsing pattern 0")) := by
  have hvalid : (deep.override .none).IsValid := (override_none deep).symm ▸ isValid_deep
  have hgiven : GivenBy (Disk.withConfig deep.toJson.compact)
      (source? (Disk.withConfig deep.toJson.compact) "/p" none) deep :=
    source?_deep ▸ givenBy_deep
  exact ⟨hgiven, hvalid, settings_load_of_refusal? hgiven hvalid refusal?_deep⟩

end DefectTrail
