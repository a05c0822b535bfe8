import DefectTrail.Proofs.Config.Codec
import DefectTrail.Proofs.Config.Loading
import DefectTrail.Proofs.FileTree.Rewritten

/-!
# Values put in the place of a file's own

Giving values beside a configuration file is the same as writing them into the file.

* `Overrides.followedBy`, `Config.override_override` : values given one after the other;
* `Config.load_rewrite_eq_ok_iff` : what is loaded from a file with a configuration written into it;
* `values_given_or_written` : **the statement as a whole**.
-/

namespace DefectTrail

/-- The values of both, those of the second where both give one. -/
def Overrides.followedBy (first second : Overrides) : Overrides where
  palette := second.palette <|> first.palette
  fixitMarker := second.fixitMarker <|> first.fixitMarker
  strictAllocationReturns := first.strictAllocationReturns || second.strictAllocationReturns
  indentWidth := second.indentWidth <|> first.indentWidth

namespace Config

theorem override_override (c : Config) (first second : Overrides) :
    (c.override first).override second = c.override (first.followedBy second) := by
  have horElse {α : Type} (a b o : Option α) : (b <|> (a <|> o)) = ((b <|> a) <|> o) := by
    cases b <;> rfl
  have hstrict : (if second.strictAllocationReturns then some true
      else if first.strictAllocationReturns then some true else c.strictAllocationReturns) =
      if first.strictAllocationReturns || second.strictAllocationReturns then some true
      else c.strictAllocationReturns := by
    cases first.strictAllocationReturns <;> cases second.strictAllocationReturns <;> rfl
  simp only [override, Overrides.followedBy, horElse, hstrict]
  rfl

/-! ## Loading what was written -/

variable {disk : Disk} {file : Path} {old : String} {write : Json → String}

/-- A configuration that is written into a file is loaded from there if it is valid. -/
theorem load_rewrite_eq_ok_iff (hread : disk.read? file = some old) (hwrite : write ∈ [Json.compact, Json.pretty])
    {c c' : Config} : load (disk.rewrite file (write c.toJson)) file = .ok c' ↔ c' = c ∧ c.IsValid := by
  rw [load_eq_ok_iff, Disk.read?_rewrite hread]
  constructor
  · rintro ⟨text, htext, hdecoded, hfault⟩
    obtain rfl := Option.some.inj htext
    rw [parse?_write c hwrite] at hdecoded
    split at hdecoded
    · obtain rfl := Option.some.inj hdecoded
      exact ⟨rfl, fault?_eq_none_iff_isValid.1 hfault⟩
    · cases hdecoded
  · rintro ⟨rfl, hvalid⟩
    have hwidth : ∀ width ∈ c'.indentWidth, width < UInt64.size := by
      intro width hgiven
      have hsize : UInt64.size = 18446744073709551616 := rfl
      have hle := (hvalid.indentWidth width hgiven).2
      omega
    have hdecoded := parse?_write c' hwrite
    rw [if_pos hwidth] at hdecoded
    exact ⟨_, rfl, hdecoded, fault?_eq_none_iff_isValid.2 hvalid⟩

theorem source_rewrite (hread : disk.read? file = some old) (directory : Path) (path : Option Path)
    (text : String) :
    (path <|> discover? (disk.rewrite file text) directory) = (path <|> discover? disk directory) := by
  have hexists : (disk.rewrite file text).exists? = disk.exists? :=
    funext fun other => Disk.exists?_rewrite hread text other
  rw [discover?, discover?, hexists]

end Config

open Config in
/-- **Values given beside a configuration file do what they do when they are written into it, and values given one
after the other what they do together.** -/
theorem values_given_or_written [Glob.Compiler] {disk : Disk} {directory : Path} {path : Option Path} {file : Path}
    {c : Config} (hsource : (path <|> discover? disk directory) = some file) (hload : load disk file = .ok c) :
    (∀ overrides, ∀ write ∈ [Json.compact, Json.pretty],
      (∃ settings, Settings.load disk directory path overrides = .ok settings ∧
        Settings.load (disk.rewrite file (write (c.override overrides).toJson)) directory path .none = .ok settings) ∨
      ∃ failure failure', Settings.load disk directory path overrides = .error failure ∧
        Settings.load (disk.rewrite file (write (c.override overrides).toJson)) directory path .none = .error failure') ∧
    ∀ (config : Config) (first second : Overrides),
      (config.override first).override second = config.override (first.followedBy second) := by
  refine ⟨fun overrides write hwrite => ?_, override_override⟩
  obtain ⟨old, hread, -⟩ := load_eq_ok_iff.1 hload
  have hrewritten := source_rewrite hread directory path (write (c.override overrides).toJson)
  rw [settings_load_of_source directory path overrides hsource, hload, Except.bind,
    settings_load_of_source directory path .none (hrewritten.trans hsource)]
  cases hresolve : (c.override overrides).resolve with
  | ok settings =>
      -- a configuration that stands for settings is valid, so that it can be loaded
      have hvalid := (exists_resolve_eq_ok_iff.1 ⟨settings, hresolve⟩).1
      rw [(load_rewrite_eq_ok_iff hread hwrite).2 ⟨rfl, hvalid⟩, Except.bind, override_none, hresolve]
      exact .inl ⟨_, rfl, rfl⟩
  | error fault =>
      right
      cases hwritten : load (disk.rewrite file (write (c.override overrides).toJson)) file with
      | error failure => exact ⟨_, failure, rfl, rfl⟩
      | ok c' =>
          obtain ⟨rfl, -⟩ := (load_rewrite_eq_ok_iff hread hwrite).1 hwritten
          rw [Except.bind, override_none, hresolve]
          exact ⟨_, _, rfl, rfl⟩

open Config in
/-- A marker given beside a file that sets the width, and the file with both written into it. -/
theorem values_given_or_written_marker :
    let disk := Disk.withConfig "\x7b\"indent_width\": 3\x7d"
    let overrides : Overrides := ⟨none, some "!", true, none⟩
    let text := Json.compact ((⟨none, none, none, some 3, []⟩ : Config).override overrides).toJson
    text = "\x7b\"palette\":null,\"fixit_marker\":\"!\",\"strict_allocation_returns\":true,\"indent_width\":3," ++
        "\"exclude\":[]\x7d" ∧
      ∃ settings, Settings.load disk "/p" none overrides = .ok settings ∧
        Settings.load (disk.rewrite "/p/.bugpathrc.json" text) "/p" none .none = .ok settings ∧
        settings.fixitMarker = "!" := by
  intro disk overrides text
  have hsource : ((none : Option Path) <|> discover? disk "/p") = some (.ofString "/p/.bugpathrc.json") := by
    decide +kernel
  have hload : load disk "/p/.bugpathrc.json" = .ok ⟨none, none, none, some 3, []⟩ := by decide +kernel
  have hmarker : (Settings.load disk "/p" none overrides).toOption.map (·.fixitMarker) = some "!" := by decide +kernel
  refine ⟨by decide +kernel, ?_⟩
  rcases (values_given_or_written hsource hload).1 overrides Json.compact List.mem_cons_self with
    ⟨settings, hgiven, hwritten⟩ | ⟨failure, failure', hgiven, -⟩
  · rw [hgiven] at hmarker
    exact ⟨settings, hgiven, hwritten, Option.some.inj hmarker⟩
  · rw [hgiven] at hmarker
    cases hmarker

end DefectTrail
