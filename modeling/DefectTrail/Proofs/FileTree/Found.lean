import DefectTrail.Proofs.FileTree.Order
import DefectTrail.Proofs.FileTree.Tree
import Mathlib.Data.List.Nodup

/-!
# What a walk meets

The JSON files below a directory and the directories on the way to them are found by one walk, which keeps other entries
in the two cases (`Entry.walkNames`).

* `Entry.jsonFiles_eq`, `Entry.outOfReach_eq` : both are this walk;
* `Entry.mem_walkNames_iff` : the walk meets what names lead to, unless they lead through a directory that is left out;
* `Entry.nodup_walkNames` : it meets nothing twice.
-/

namespace DefectTrail

/-- A directory of this name is not entered: the name is a text, and it begins with a dot or is one of two words. -/
def IsLeftOut (name : Path) : Prop :=
  ∃ text : String, name = text ∧ (text.toList.head? = some '.' ∨ text = "node_modules" ∨ text = "target")

theorem Path.text?_eq_some_iff {path : Path} {text : String} : path.text? = some text ↔ path = text := by
  rw [text?]
  constructor
  · intro h
    split at h
    · next hpath =>
        obtain rfl := Option.some.inj h
        exact hpath.symm
    · cases h
  · rintro rfl
    rw [text_ofString, if_pos rfl]

theorem isSkippedDirectory_iff {name : Path} : isSkippedDirectory name = true ↔ IsLeftOut name := by
  rw [isSkippedDirectory, IsLeftOut]
  simp only [← Path.text?_eq_some_iff]
  cases name.text? <;> simp [or_assoc]

namespace Entry

mutual

/-- The names that lead to the entries that a walk meets and keeps. -/
def walkNames (keep : Path → Entry → Bool) : List (Path × Entry) → List (List Path)
  | [] => []
  | (name, entry) :: entries => walkNamesAs keep name entry ++ walkNames keep entries

/-- The same from an entry that is met under a name. -/
def walkNamesAs (keep : Path → Entry → Bool) (name : Path) : Entry → List (List Path)
  | .file text => if keep name (.file text) then [[name]] else []
  | .special text => if keep name (.special text) then [[name]] else []
  | .locked => if !isSkippedDirectory name && keep name .locked then [[name]] else []
  | .directory entries =>
    if isSkippedDirectory name then []
    else (if keep name (.directory entries) then [[name]] else []) ++ (walkNames keep entries).map (name :: ·)

end

/-- Keeps the JSON files. -/
def isReport (name : Path) : Entry → Bool
  | .file _ => isJsonFile name
  | .special _ | .locked | .directory _ => false

/-- Keeps the directories that can be opened. -/
def isOpened (_ : Path) (entry : Entry) : Bool := entry.isSearched

/-- Keeps the directories that cannot be opened. -/
def isClosed (_ : Path) (entry : Entry) : Bool := entry.isDirectory && !entry.isSearched

mutual

theorem jsonFiles_eq (directory : Path) :
    ∀ entries, jsonFiles directory entries = (walkNames isReport entries).map (Path.below directory)
  | [] => rfl
  | (name, entry) :: entries => by
      rw [jsonFiles, walkNames, List.map_append, jsonFilesAs_eq directory name entry, jsonFiles_eq directory entries]

theorem jsonFilesAs_eq (directory name : Path) :
    ∀ entry, jsonFilesAs name (Path.join directory name) entry =
      (walkNamesAs isReport name entry).map (Path.below directory)
  | .file text => by
      rw [jsonFilesAs, walkNamesAs]
      show _ = (if isJsonFile name = true then [[name]] else []).map _
      split <;> rfl
  | .special _ => rfl
  | .locked => by
      rw [walkNamesAs, isReport, Bool.and_false]
      rfl
  | .directory entries => by
      rw [jsonFilesAs, walkNamesAs]
      split
      · rfl
      · rw [jsonFiles_eq (Path.join directory name) entries, List.map_append, List.map_map]
        rfl

end

mutual

theorem outOfReach_eq (directory : Path) :
    ∀ entries, outOfReach directory entries =
      ((walkNames isClosed entries).any (fun _ => true) ||
        (walkNames isOpened entries).any fun names => Path.isTooLong (Path.below directory names))
  | [] => rfl
  | (name, entry) :: entries => by
      rw [outOfReach, walkNames, walkNames, List.any_append, List.any_append, outOfReachAs_eq directory name entry,
        outOfReach_eq directory entries]
      ac_rfl

theorem outOfReachAs_eq (directory name : Path) :
    ∀ entry, outOfReachAs name (Path.join directory name) entry =
      ((walkNamesAs isClosed name entry).any (fun _ => true) ||
        (walkNamesAs isOpened name entry).any fun names => Path.isTooLong (Path.below directory names))
  | .file _ | .special _ => rfl
  | .locked => by
      rw [outOfReachAs, walkNamesAs, walkNamesAs]
      cases isSkippedDirectory name <;> rfl
  | .directory entries => by
      rw [outOfReachAs, walkNamesAs, walkNamesAs, outOfReach_eq (Path.join directory name) entries]
      cases isSkippedDirectory name with
      | true => rfl
      | false =>
          -- the directory can be opened, so that it counts by its path alone
          simp only [Bool.false_eq_true, if_false, isClosed, isOpened, isDirectory, isSearched, Bool.not_true,
            Bool.and_false, if_true, List.nil_append, List.any_append, List.any_map, List.any_cons, List.any_nil,
            Bool.or_false, Function.comp_def, Path.below, List.foldl_cons, List.foldl_nil]
          ac_rfl

end

/-! ## What is met -/

variable {keep : Path → Entry → Bool}

theorem mem_walkNames_iff_exists {entries : List (Path × Entry)} {names : List Path} :
    names ∈ walkNames keep entries ↔ ∃ name entry, (name, entry) ∈ entries ∧ names ∈ walkNamesAs keep name entry := by
  induction entries with
  | nil => simp [walkNames]
  | cons e entries ih =>
      obtain ⟨name, entry⟩ := e
      rw [walkNames, List.mem_append, ih]
      constructor
      · rintro (h | ⟨name', entry', hmem, h⟩)
        · exact ⟨name, entry, List.mem_cons_self, h⟩
        · exact ⟨name', entry', List.mem_cons_of_mem _ hmem, h⟩
      · rintro ⟨name', entry', hmem, h⟩
        rcases List.mem_cons.1 hmem with heq | hmem
        · cases heq
          exact Or.inl h
        · exact Or.inr ⟨name', entry', hmem, h⟩

theorem mem_walkNamesAs_iff {name : Path} {entry : Entry} {names : List Path} :
    names ∈ walkNamesAs keep name entry ↔
      (names = [name] ∧ keep name entry = true ∧ (entry.isDirectory = true → ¬ IsLeftOut name)) ∨
        ∃ entries rest, entry = .directory entries ∧ ¬ IsLeftOut name ∧ names = name :: rest ∧
          rest ∈ walkNames keep entries := by
  cases entry with
  | file text =>
      rw [walkNamesAs]
      by_cases hkeep : keep name (.file text) = true <;> simp [hkeep, isDirectory]
  | special text =>
      rw [walkNamesAs]
      by_cases hkeep : keep name (.special text) = true <;> simp [hkeep, isDirectory]
  | locked =>
      rw [walkNamesAs, ← isSkippedDirectory_iff]
      by_cases hskip : isSkippedDirectory name = true
      · simp [hskip, isDirectory]
      · by_cases hkeep : keep name .locked = true <;> simp [hskip, hkeep, isDirectory]
  | directory entries =>
      rw [walkNamesAs, ← isSkippedDirectory_iff]
      by_cases hskip : isSkippedDirectory name = true
      · simp [hskip, isDirectory]
      · by_cases hkeep : keep name (.directory entries) = true <;> simp [hskip, hkeep, isDirectory, eq_comm, and_comm]

theorem exists_cons_of_mem_walkNamesAs {name : Path} {entry : Entry} {names : List Path}
    (h : names ∈ walkNamesAs keep name entry) : ∃ rest, names = name :: rest := by
  rcases mem_walkNamesAs_iff.1 h with ⟨rfl, -⟩ | ⟨_, rest, -, -, rfl, -⟩
  · exact ⟨[], rfl⟩
  · exact ⟨rest, rfl⟩

mutual

theorem nodup_walkNames : ∀ {entries : List (Path × Entry)}, IsTree (.directory entries) →
    (walkNames keep entries).Nodup
  | [], _ => List.nodup_nil
  | (name, entry) :: entries, .directory hnodup hnames hentries => by
      obtain ⟨hname, hnodup⟩ := List.nodup_cons.1 hnodup
      have hrest : IsTree (.directory entries) :=
        .directory hnodup (List.forall_mem_of_forall_mem_cons hnames) (List.forall_mem_of_forall_mem_cons hentries)
      rw [walkNames, List.nodup_append]
      refine ⟨nodup_walkNamesAs (hentries _ List.mem_cons_self), nodup_walkNames hrest, ?_⟩
      rintro names hnames _ hnames' rfl
      obtain ⟨name', entry', hmem, hnames'⟩ := mem_walkNames_iff_exists.1 hnames'
      obtain ⟨rest, rfl⟩ := exists_cons_of_mem_walkNamesAs hnames
      obtain ⟨rest', heq⟩ := exists_cons_of_mem_walkNamesAs hnames'
      obtain ⟨rfl, -⟩ := List.cons.inj heq
      exact hname (List.mem_map.2 ⟨_, hmem, rfl⟩)

theorem nodup_walkNamesAs {name : Path} : ∀ {entry : Entry}, entry.IsTree → (walkNamesAs keep name entry).Nodup
  | .file _, _ | .special _, _ | .locked, _ => by
      rw [walkNamesAs]
      split
      · exact List.nodup_singleton _
      · exact List.nodup_nil
  | .directory entries, htree => by
      rw [walkNamesAs]
      split
      · exact List.nodup_nil
      · have hbelow : ((walkNames keep entries).map (name :: ·)).Nodup :=
          (nodup_walkNames htree).map fun _ _ h => (List.cons.inj h).2
        split
        · refine List.nodup_cons.2 ⟨fun h => ?_, hbelow⟩
          obtain ⟨names, hnames, heq⟩ := List.mem_map.1 h
          obtain rfl := (List.cons.inj heq).2
          obtain ⟨name', entry', -, hnil⟩ := mem_walkNames_iff_exists.1 hnames
          obtain ⟨rest, hrest⟩ := exists_cons_of_mem_walkNamesAs hnil
          cases hrest
        · exact hbelow

end

end Entry

end DefectTrail
