import DefectTrail.Proofs.Config.Validity
import DefectTrail.Proofs.FileTree.Below
import DefectTrail.Proofs.Glob.Names

/-!
# Excluding by name

Two stars before a name exclude what has the name, and two more after it what is below a directory of the name. Only
the parts of a path count, so it does not matter which directory the path is seen from, unless that has the name among
its own parts.

* `Config.exists_resolve_only_iff`, `Config.includes_only_iff` : a configuration with one pattern;
* `Path.exists_parts_resolve_eq` : the parts of a path that is seen from a directory;
* `Settings.includes_eq_of_parts_eq_append` : parts in front that are not the name make no difference;
* `common_excludes_go_by_names` : **excluding a name goes by the parts of paths**.
-/

namespace DefectTrail

/-! ## Configurations with one pattern -/

namespace Config

variable {c : Config} {settings : Settings} {pattern : String} {glob : List Glob.Token}

section
variable [Glob.Compiler]

theorem refusal?_only (hparse : Glob.parse? pattern = some glob) :
    { c with exclude := [pattern] }.refusal? = Glob.Compiler.refusal? [glob] := by
  rw [refusal?, List.filterMap_cons_some hparse, List.filterMap_nil]

theorem refusal?_none : { c with exclude := [] }.refusal? = none :=
  Glob.Compiler.accepted_of_texts (List.forall_mem_nil _)

/-- A pattern that can be read leaves a configuration as valid as it is without patterns. -/
theorem exists_resolve_only_iff (hparse : Glob.parse? pattern = some glob) :
    (∃ settings, { c with exclude := [pattern] }.resolve = .ok settings) ↔
      (∃ settings, { c with exclude := [] }.resolve = .ok settings) ∧
        { c with exclude := [pattern] }.refusal? = none := by
  rw [exists_resolve_eq_ok_iff, exists_resolve_eq_ok_iff, and_iff_left refusal?_none]
  refine and_congr_left fun _ => ?_
  constructor
  · rintro ⟨hpalette, hmarker, hwidth, -⟩
    exact ⟨hpalette, hmarker, hwidth, List.forall_mem_nil _⟩
  · rintro ⟨hpalette, hmarker, hwidth, -⟩
    refine ⟨hpalette, hmarker, hwidth, List.forall_mem_singleton.2 ?_⟩
    rw [hparse]
    exact Option.some_ne_none glob

theorem includes_only_iff (hparse : Glob.parse? pattern = some glob)
    (h : { c with exclude := [pattern] }.resolve = .ok settings) {path : Path} :
    settings.includes path = false ↔ Glob.accepts glob path.text = true := by
  rw [← Bool.not_eq_true, includes_iff (check_of_resolve h), ← Bool.not_eq_false, not_iff_not,
    List.forall_mem_singleton, hparse]
  simp only [Option.some.injEq, forall_eq']

end

theorem isShallow_only (hparse : Glob.parse? pattern = some glob)
    (hlevels : 1 + Glob.tokensLevels glob ≤ Glob.maxLevels) : { c with exclude := [pattern] }.IsShallow := by
  refine List.forall_mem_singleton.2 fun glob' hglob' => ?_
  obtain rfl := Option.some.inj (hparse.symm.trans hglob')
  exact hlevels

end Config

/-! ## Paths seen from a directory -/

namespace Path

/-- The parts of a path come after parts of the directory that it is seen from. -/
theorem exists_parts_resolve_eq (directory path : Path) :
    ∃ above, above ⊆ parts directory ∧ parts (resolve directory path) = above ++ parts path := by
  unfold resolve join
  split
  · exact ⟨[], List.nil_subset _, rfl⟩
  · split
    · next hend =>
      rcases hend with rfl | hend
      · exact ⟨[], List.nil_subset _, rfl⟩
      · obtain ⟨stem, rfl⟩ := exists_eq_append_slash hend
        refine ⟨parts stem, ?_, parts_append_slash stem path⟩
        rw [← Path.append_empty (stem ++ "/"), parts_append_slash]
        exact List.subset_append_left _ _
    · exact ⟨parts directory, List.Subset.refl _, parts_append_slash directory path⟩

end Path

/-! ## Excluding a name -/

namespace Settings

variable {s : Settings} {name : Path}

/-- Whether settings go by what a path's last part is, or by what the parts before it are. -/
theorem includes_eq_of_parts_eq_append
    (h : (∀ path, s.includes path = false ↔ (Path.parts path).getLast? = some name) ∨
      ∀ path, s.includes path = false ↔ name ∈ (Path.parts path).dropLast)
    {path longer : Path} {above : List Path} (hparts : Path.parts longer = above ++ Path.parts path)
    (habove : name ∉ above) : s.includes longer = s.includes path := by
  have hne : Path.parts path ≠ [] := Path.parts_ne_nil path
  have hiff : s.includes longer = false ↔ s.includes path = false := by
    rcases h with h | h
    · rw [h, h, hparts, List.getLast?_append_of_ne_nil above hne]
    · rw [h, h, hparts, List.dropLast_append_of_ne_nil hne, List.mem_append, or_iff_right habove]
  rw [Bool.eq_iff_iff, ← not_iff_not, Bool.not_eq_true, Bool.not_eq_true, hiff]

end Settings

/-- **Excluding a name, or what is below it, goes by the parts of a path, and not by the directory that the path is
seen from.** -/
theorem common_excludes_go_by_names [Glob.Compiler] {name : String} (hname : Glob.IsPlainName name) (c : Config) :
    let byName : Config := { c with exclude := ["**/" ++ name] }
    let below : Config := { c with exclude := ["**/" ++ name ++ "/**"] }
    ((∃ s, byName.resolve = .ok s) ↔ ∃ s, { c with exclude := [] }.resolve = .ok s) ∧
      ((∃ s, below.resolve = .ok s) ↔ (∃ s, { c with exclude := [] }.resolve = .ok s) ∧ below.refusal? = none) ∧
      below.IsShallow ∧
      (∀ s, byName.resolve = .ok s →
        ∀ path, s.includes path = false ↔ (Path.parts path).getLast? = some (Path.ofString name)) ∧
      (∀ s, below.resolve = .ok s →
        ∀ path, s.includes path = false ↔ Path.ofString name ∈ (Path.parts path).dropLast) ∧
      ∀ s, byName.resolve = .ok s ∨ below.resolve = .ok s →
        ∀ directory, Path.ofString name ∉ Path.parts directory → ∀ path,
          s.includes (directory ++ "/" ++ path) = s.includes path ∧
            s.includes (Path.resolve directory path) = s.includes path ∧
            (path ≠ "" → ∀ names,
              s.includes (Path.below (Path.resolve directory path) names) = s.includes (Path.below path names)) := by
  intro byName below
  have hparseName := Glob.parse?_name hname
  have hparseBelow := Glob.parse?_below hname
  have hbyName : ∀ s, byName.resolve = .ok s →
      ∀ path, s.includes path = false ↔ (Path.parts path).getLast? = some (Path.ofString name) := by
    intro s hs path
    rw [Config.includes_only_iff hparseName hs, Glob.accepts_name_iff hname, Glob.getLast?_parts_text_iff hname]
  have hbelow : ∀ s, below.resolve = .ok s →
      ∀ path, s.includes path = false ↔ Path.ofString name ∈ (Path.parts path).dropLast := by
    intro s hs path
    rw [Config.includes_only_iff hparseBelow hs, Glob.accepts_below_iff hname, Glob.mem_dropLast_parts_text_iff hname]
  refine ⟨?_, Config.exists_resolve_only_iff hparseBelow, ?_, hbyName, hbelow, ?_⟩
  · -- names are compared as texts, so that nothing is refused
    rw [Config.exists_resolve_only_iff hparseName, Config.refusal?_only hparseName, and_iff_left]
    refine Glob.Compiler.accepted_of_texts (List.forall_mem_singleton.2 ?_)
    rw [Glob.strategy_name hname, Glob.Strategy.isExpression]
  · refine Config.isShallow_only hparseBelow ?_
    rw [Glob.tokensLevels_below]
    decide
  · intro s hs directory hdirectory path
    have hnamed := hs.imp (hbyName s) (hbelow s)
    have hresolve (path : Path) : s.includes (Path.resolve directory path) = s.includes path := by
      obtain ⟨above, hsubset, hparts⟩ := Path.exists_parts_resolve_eq directory path
      exact Settings.includes_eq_of_parts_eq_append hnamed hparts fun hmem => hdirectory (hsubset hmem)
    refine ⟨Settings.includes_eq_of_parts_eq_append hnamed (Path.parts_append_slash directory path) hdirectory,
      hresolve path, fun hpath names => ?_⟩
    rw [← Path.resolve_below hpath, hresolve]

/-- Drafts are left out wherever the project lives, and a directory that only has the word in its name is not. -/
theorem common_excludes_go_by_names_drafts :
    Glob.IsPlainName "drafts" ∧
      ∃ s, { Config.empty with exclude := ["**/" ++ "drafts" ++ "/**"] }.resolve = .ok s ∧
        s.includes "reports/drafts/a.json" = false ∧ s.includes "mydrafts/a.json" = true ∧
        s.includes "/work/reports/drafts/a.json" = false ∧ s.includes "/work/mydrafts/a.json" = true := by
  have hplain : "drafts".toList.all (fun c => decide (Glob.IsPlainChar c)) = true := by decide
  have hname : Glob.IsPlainName "drafts" :=
    ⟨fun c hc => of_decide_eq_true (List.all_eq_true.1 hplain c hc), 's', by decide, by decide⟩
  obtain ⟨-, hresolve, hshallow, -, hbelow, hlike⟩ := common_excludes_go_by_names hname Config.empty
  obtain ⟨s, hs⟩ := hresolve.2 ⟨⟨_, rfl⟩, Config.refusal?_eq_none_iff_isShallow.2 hshallow⟩
  have hdrafts : s.includes "reports/drafts/a.json" = false := (hbelow s hs _).2 (by decide)
  have hmine : s.includes "mydrafts/a.json" = true := Bool.eq_true_of_not_eq_false (mt (hbelow s hs _).1 (by decide))
  have hhome (path : Path) : s.includes ("/work" ++ "/" ++ path) = s.includes path :=
    (hlike s (Or.inr hs) "/work" (by decide) path).1
  refine ⟨hname, s, hs, hdrafts, hmine, ?_, ?_⟩
  · exact (hhome "reports/drafts/a.json").trans hdrafts
  · exact (hhome "mydrafts/a.json").trans hmine

end DefectTrail
