import DefectTrail.Collection

/-!
# Annotating several files

A journal that goes through a list gives what its parts give, in their order (`Journal.result_collect_eq_ok_iff`), or
fails with the failure of the first that fails (`Journal.result_collect_eq_error_iff`,
`Journal.result_collect_of_error`). For files this is said with the reports of each file (`Disk.reportsIn`), in
`Disk.result_annotateFiles_of_ok` and `Disk.result_annotateFiles_of_error`.
-/

namespace DefectTrail

namespace Journal

section
variable {α β : Type} {f : α → Journal (List β)} {as : List α}

theorem result_collect_cons (f : α → Journal (List β)) (a : α) (as : List α) :
    (collect f (a :: as)).result = (f a).result.bind fun first => (collect f as).result.map (first ++ ·) := by
  rw [collect]
  cases f a with
  | mk first log =>
      cases first with
      | error failure => rfl
      | ok first =>
          cases collect f as with
          | mk rest log' => cases rest <;> rfl

theorem result_collect_cons_eq_ok_iff {a : α} {all : List β} :
    (collect f (a :: as)).result = .ok all ↔
      ∃ first rest, (f a).result = .ok first ∧ (collect f as).result = .ok rest ∧ all = first ++ rest := by
  rw [result_collect_cons]
  constructor
  · intro h
    cases hfirst : (f a).result with
    | error failure =>
        rw [hfirst] at h
        cases h
    | ok first =>
        cases hrest : (collect f as).result with
        | error failure =>
            rw [hfirst, hrest] at h
            cases h
        | ok rest =>
            rw [hfirst, hrest] at h
            exact ⟨first, rest, rfl, rfl, (Except.ok.inj h).symm⟩
  · rintro ⟨first, rest, hfirst, hrest, rfl⟩
    rw [hfirst, hrest]
    rfl

/-- The results are those of the parts, one after the other. -/
theorem result_collect_eq_ok_iff {all : List β} :
    (collect f as).result = .ok all ↔
      ∃ parts : List (List β), as.map (fun a => (f a).result) = parts.map .ok ∧ all = parts.flatten := by
  induction as generalizing all with
  | nil =>
      constructor
      · intro h
        obtain rfl := Except.ok.inj h
        exact ⟨[], rfl, rfl⟩
      · rintro ⟨parts, hparts, rfl⟩
        rw [List.map_eq_nil_iff.1 hparts.symm]
        rfl
  | cons a as ih =>
      rw [result_collect_cons_eq_ok_iff, List.map_cons]
      constructor
      · rintro ⟨first, rest, hfirst, hrest, rfl⟩
        obtain ⟨parts, hparts, rfl⟩ := ih.1 hrest
        exact ⟨first :: parts, by rw [hfirst, hparts, List.map_cons], rfl⟩
      · rintro ⟨parts, hparts, rfl⟩
        cases parts with
        | nil => cases hparts
        | cons first parts =>
            obtain ⟨hfirst, hparts⟩ := List.cons.inj hparts
            exact ⟨first, parts.flatten, hfirst, ih.2 ⟨parts, hparts, rfl⟩, rfl⟩

/-- What follows a part that gives its results is logged behind it. -/
theorem log_collect_cons {a : α} {first : List β} (h : (f a).result = .ok first) :
    (collect f (a :: as)).log = (f a).log ++ (collect f as).log := by
  rw [collect]
  cases hfirst : f a with
  | mk result log =>
      rw [hfirst] at h
      obtain rfl : result = .ok first := h
      cases hrest : collect f as with
      | mk rest log' => cases rest <;> simp

/-- A failure is that of the first part that fails. -/
theorem result_collect_eq_error_iff {failure : Failure} :
    (collect f as).result = .error failure ↔
      ∃ before a after, as = before ++ a :: after ∧ (∀ b ∈ before, ∃ bs, (f b).result = .ok bs) ∧
        (f a).result = .error failure := by
  constructor
  · intro h
    induction as with
    | nil => cases h
    | cons a as ih =>
        rw [result_collect_cons] at h
        cases hfirst : (f a).result with
        | error failure' =>
            rw [hfirst] at h
            obtain rfl := Except.error.inj h
            exact ⟨[], a, as, rfl, List.forall_mem_nil _, hfirst⟩
        | ok first =>
            cases hrest : (collect f as).result with
            | error failure' =>
                rw [hfirst, hrest] at h
                obtain rfl := Except.error.inj h
                obtain ⟨before, b, after, rfl, hbefore, hfails⟩ := ih hrest
                exact ⟨a :: before, b, after, rfl, List.forall_mem_cons.2 ⟨⟨first, hfirst⟩, hbefore⟩, hfails⟩
            | ok rest =>
                rw [hfirst, hrest] at h
                cases h
  · rintro ⟨before, a, after, rfl, hbefore, hfails⟩
    induction before with
    | nil =>
        rw [List.nil_append, result_collect_cons, hfails]
        rfl
    | cons b before ih =>
        obtain ⟨⟨bs, hbs⟩, hbefore⟩ := List.forall_mem_cons.1 hbefore
        rw [List.cons_append, result_collect_cons, hbs, ih hbefore]
        rfl

theorem exists_mem_of_result_collect_eq_error {failure : Failure} (h : (collect f as).result = .error failure) :
    ∃ a ∈ as, (f a).result = .error failure := by
  obtain ⟨before, a, after, rfl, -, hfails⟩ := result_collect_eq_error_iff.1 h
  exact ⟨a, List.mem_append_right _ List.mem_cons_self, hfails⟩

/-- Each part of a whole that gives its results gives its own. -/
theorem exists_result_eq_ok_of_mem {all : List β} (h : (collect f as).result = .ok all) {a : α} (ha : a ∈ as) :
    ∃ bs, (f a).result = .ok bs := by
  obtain ⟨parts, hparts, -⟩ := result_collect_eq_ok_iff.1 h
  have hmem : (f a).result ∈ parts.map Except.ok := hparts ▸ List.mem_map_of_mem ha
  obtain ⟨bs, -, hbs⟩ := List.mem_map.1 hmem
  exact ⟨bs, hbs.symm⟩

theorem result_collect_singleton (f : α → Journal (List β)) (a : α) : (collect f [a]).result = (f a).result := by
  rw [result_collect_cons]
  cases (f a).result with
  | error failure => rfl
  | ok bs => exact congrArg Except.ok (List.append_nil bs)

end

end Journal

namespace Disk

variable {disk : Disk} {settings : Settings} {files : List Path}

theorem bundles_of_read? {file : Path} {text : String} (hread : disk.read? file = some text) :
    disk.bundles file = (parseBundles? text).elim (.error (.malformedReports file)) .ok := by
  simp only [bundles, hread]
  cases parseBundles? text <;> rfl

theorem bundles_eq_ok_iff {file : Path} {bundles : List Bundle} :
    disk.bundles file = .ok bundles ↔ ∃ text, disk.read? file = some text ∧ parseBundles? text = some bundles := by
  constructor
  · intro h
    cases hread : disk.read? file with
    | none =>
        simp only [Disk.bundles, hread] at h
        cases h
    | some text =>
        rw [bundles_of_read? hread] at h
        cases hparse : parseBundles? text with
        | none =>
            rw [hparse] at h
            cases h
        | some found =>
            rw [hparse] at h
            obtain rfl := Except.ok.inj h
            exact ⟨text, rfl, hparse⟩
  · rintro ⟨text, hread, hparse⟩
    rw [bundles_of_read? hread, hparse]
    rfl

/-- The reports of a file; a file that holds no bundles has none. -/
def reportsIn (disk : Disk) (settings : Settings) (file : Path) : List AnnotatedReport :=
  match disk.bundles file with
  | .error _ => []
  | .ok bundles => (Bundle.annotateAll bundles settings.annotateOptions).value

theorem result_annotateFile_of_ok {file : Path} {bundles : List Bundle} (h : disk.bundles file = .ok bundles) :
    (disk.annotateFile settings file).result = .ok (disk.reportsIn settings file) := by
  rw [annotateFile, reportsIn, h]

/-- Why a file holds no bundles. -/
theorem bundles_eq_error_iff {file : Path} {failure : Failure} :
    disk.bundles file = .error failure ↔
      disk.read? file = none ∧ failure = .unreadableReports file ∨
        ∃ text, disk.read? file = some text ∧ parseBundles? text = none ∧ failure = .malformedReports file := by
  cases hread : disk.read? file with
  | none =>
      have hbundles : disk.bundles file = .error (.unreadableReports file) := by
        simp only [bundles, hread]
      rw [hbundles]
      constructor
      · intro h
        exact Or.inl ⟨rfl, (Except.error.inj h).symm⟩
      · rintro (⟨-, rfl⟩ | ⟨text, htext, -⟩)
        · rfl
        · cases htext
  | some text =>
      rw [bundles_of_read? hread]
      cases hparse : parseBundles? text with
      | none =>
          constructor
          · intro h
            exact Or.inr ⟨text, rfl, hparse, (Except.error.inj h).symm⟩
          · rintro (⟨hnone, -⟩ | ⟨-, -, -, rfl⟩)
            · cases hnone
            · rfl
      | some found =>
          constructor
          · intro h
            cases h
          · rintro (⟨hnone, -⟩ | ⟨text', htext, hnone, -⟩)
            · cases hnone
            · obtain rfl := Option.some.inj htext
              cases hparse.symm.trans hnone

theorem result_annotateFile_of_error {file : Path} {failure : Failure} (h : disk.bundles file = .error failure) :
    (disk.annotateFile settings file).result = .error failure := by
  rw [annotateFile, h]

/-- A path is annotated by its files, if it stands for any. -/
theorem result_annotatePath (disk : Disk) (settings : Settings) (path : Path) :
    (disk.annotatePath settings path).result = (disk.reportFiles path (some settings)).bind fun files =>
      (Journal.collect (disk.annotateFile settings) files).result := by
  rw [annotatePath]
  cases disk.reportFiles path (some settings) <;> rfl

/-- A path that names a file is annotated as that file. -/
theorem result_annotatePath_of_file {path : Path} {text : Option String}
    (hfile : disk.entryAt? path = some (.file text)) :
    (disk.annotatePath settings path).result = (disk.annotateFile settings path).result := by
  have hfiles : disk.reportFiles path (some settings) = .ok [path] := by
    simp only [reportFiles, hfile]
  rw [result_annotatePath, hfiles, Except.bind, Journal.result_collect_singleton]

/-- Files give their text. -/
theorem read?_of_file {path : Path} {text : Option String} (hfile : disk.entryAt? path = some (.file text)) :
    disk.read? path = text := by
  rw [read?, hfile]

/-- A path that names a file of bundles gives their reports. -/
theorem result_annotatePath_of_bundles {path : Path} {text : String} {bundles : List Bundle}
    (hfile : disk.entryAt? path = some (.file (some text))) (hparse : parseBundles? text = some bundles) :
    (disk.annotatePath settings path).result = .ok (Bundle.annotateAll bundles settings.annotateOptions).value := by
  have hbundles : disk.bundles path = .ok bundles := bundles_eq_ok_iff.2 ⟨text, read?_of_file hfile, hparse⟩
  rw [result_annotatePath_of_file hfile, result_annotateFile_of_ok hbundles, reportsIn, hbundles]

end Disk

end DefectTrail
