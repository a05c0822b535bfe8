import DefectTrail.FileTree.Path

/-!
# File trees

A tree of files and directories as data, and the reading of paths in it from a working directory. A path names an
entry only if each part before it is a directory; a slash or a dot after a name asks for a directory too. A path that
is too long names nothing, and neither does one that leads through a directory that cannot be searched. The entries of
a directory come in no particular order.
-/

namespace DefectTrail

/-- What has a name in a directory. -/
inductive Entry where
  /-- A regular file with its text, or without one if it cannot be read or its bytes are not UTF-8. -/
  | file (text : Option String)
  /-- Neither a file nor a directory, such as a pipe or a device, with the text that it gives when it is read. -/
  | special (text : Option String)
  /-- A directory with its named entries. -/
  | directory (entries : List (Path × Entry))
  /-- A directory that can be neither listed nor searched. -/
  | locked
  deriving Inhabited, Repr

namespace Entry

/-- A file of the given bytes. -/
def ofBytes (bytes : ByteArray) : Entry := .file (String.fromUTF8? bytes)

/-- Whether an entry is a directory. -/
def isDirectory : Entry → Bool
  | directory _ | locked => true
  | file _ | special _ => false

/-- Whether names can be looked up in an entry. -/
def isSearched : Entry → Bool
  | directory _ => true
  | file _ | special _ | locked => false

/-- The entry of the given name in a directory. -/
def child? (name : Path) : Entry → Option Entry
  | directory entries => entries.lookup name
  | file _ | special _ | locked => none

/-- Follows the parts of a path from the innermost of a chain of directories; two dots go back along the chain, and
from its end nowhere. Nothing comes after a slash at the end, so that the directory before it is not searched. -/
def follow? : List Entry → List Path → Option (List Entry)
  | [], _ => none
  | chain, [] => some chain
  | here :: above, part :: parts =>
    if part = "" then if here.isDirectory then follow? (here :: above) parts else none
    else if !here.isSearched then none
    else if part = "." then follow? (here :: above) parts
    else if part = ".." then follow? (if above.isEmpty then [here] else above) parts
    else (here.child? part).bind fun entry => follow? (entry :: here :: above) parts

/-! ## Putting entries into a tree -/

/-- The entries of a directory with one of them set; a new name comes last. -/
def set (name : Path) (entry : Entry) : List (Path × Entry) → List (Path × Entry)
  | [] => [(name, entry)]
  | (n, e) :: entries => if n = name then (n, entry) :: entries else (n, e) :: set name entry entries

theorem lookup_set_self (name : Path) (entry : Entry) (entries : List (Path × Entry)) :
    (set name entry entries).lookup name = some entry := by
  induction entries with
  | nil => simp [set]
  | cons e entries ih =>
    rw [set]
    split
    · simp_all
    · next h => rw [List.lookup_cons, beq_false_of_ne (Ne.symm h), ih]

theorem lookup_set_of_ne {name other : Path} (h : other ≠ name) (entry : Entry)
    (entries : List (Path × Entry)) : (set name entry entries).lookup other = entries.lookup other := by
  induction entries with
  | nil => simp [set, List.lookup_cons, beq_false_of_ne h]
  | cons e entries ih =>
    obtain ⟨n, old⟩ := e
    rw [set]
    split
    · next hn => simp [List.lookup_cons, hn, beq_false_of_ne h]
    · simp [List.lookup_cons, ih]

/-- What stands in a place where an entry is put over another: a directory keeps what it holds. -/
def onto : Entry → Entry → Entry
  | directory new, directory old => directory (new.foldl (fun all (name, entry) => set name entry all) old)
  | new, _ => new

/-- The tree with an entry put at the end of the given names; the directories on the way are made. -/
def put (entry : Entry) : List Path → Entry → Entry
  | [], here => entry.onto here
  | name :: names, here =>
    let entries := match here with
      | directory entries => entries
      | file _ | special _ | locked => []
    directory (set name (put entry names ((entries.lookup name).getD (directory []))) entries)

end Entry

/-- A file tree with a working directory, which is an absolute path. -/
structure Disk where
  root : Entry
  workingDirectory : Path

namespace Disk

/-- The entry that a path names. -/
def entryAt? (disk : Disk) (path : Path) : Option Entry :=
  if path = "" ∨ Path.isTooLong path then none
  else (Entry.follow? [disk.root] (Path.parts (Path.resolve disk.workingDirectory path))).bind List.head?

/-- The text that a path gives when it is read. -/
def read? (disk : Disk) (path : Path) : Option String :=
  match disk.entryAt? path with
  | some (.file text) | some (.special text) => text
  | _ => none

/-- Whether a path names anything. -/
def exists? (disk : Disk) (path : Path) : Bool := (disk.entryAt? path).isSome

end Disk

end DefectTrail
