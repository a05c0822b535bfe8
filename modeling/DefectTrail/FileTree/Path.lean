import DefectTrail.Text.Utf8

/-!
# Paths

Paths are bytes with slashes between their parts, and names in a directory are paths of one part. A text stands for
the path of its bytes; a path whose bytes are no text is shown with a sign in the place of what cannot be read.

Joining keeps a path as it was given, so that the paths found below a directory begin with the directory's own
spelling. Paths are ordered by their parts (`Path.le`): any two can be compared, and those that come before each other
have the same parts.
-/

namespace DefectTrail

structure Path where
  bytes : List UInt8
  deriving DecidableEq, Inhabited, Repr

namespace Path

/-! ## Paths and texts -/

def ofString (text : String) : Path := ⟨Text.utf8 text.toList⟩

/-- The path as it is shown. -/
def text (path : Path) : String := String.ofList (Text.decode path.bytes)

/-- The text of a path, if its bytes are one. -/
def text? (path : Path) : Option String := if ofString path.text = path then some path.text else none

instance : Coe String Path := ⟨ofString⟩

instance : Coe (Option String) (Option Path) := ⟨Option.map ofString⟩

instance : Coe (List String) (List Path) := ⟨List.map ofString⟩

instance : Coe (Option Path) (Option String) := ⟨Option.map text⟩

instance : Coe (List Path) (List String) := ⟨List.map text⟩

instance : Append Path := ⟨fun a b => ⟨a.bytes ++ b.bytes⟩⟩

@[simp] theorem bytes_append (a b : Path) : (a ++ b).bytes = a.bytes ++ b.bytes := rfl

theorem bytes_inj {a b : Path} : a.bytes = b.bytes ↔ a = b :=
  ⟨fun h => congrArg mk h, congrArg bytes⟩

@[simp] theorem bytes_empty : (ofString "").bytes = [] := rfl

theorem bytes_ne_nil {path : Path} (h : path ≠ "") : path.bytes ≠ [] := fun hnil => h (bytes_inj.1 hnil)

protected theorem append_assoc (a b c : Path) : a ++ b ++ c = a ++ (b ++ c) :=
  bytes_inj.1 (List.append_assoc ..)

protected theorem append_empty (path : Path) : path ++ "" = path := bytes_inj.1 (List.append_nil _)

@[simp] theorem text_ofString (s : String) : (ofString s).text = s := by
  rw [text, ofString, Text.decode_utf8, String.ofList_toList]

/-! ## Joining and taking apart -/

/-- The byte of a slash. -/
def slash : UInt8 := 47

/-- The byte of a dot. -/
def dot : UInt8 := 46

@[simp] theorem bytes_slash : (ofString "/").bytes = [slash] := by decide

/-- Whether a path begins at the root. -/
def isAbsolute (path : Path) : Bool := path.bytes.head? = some slash

/-- The path of a name in a directory. -/
def join (directory name : Path) : Path :=
  if directory = "" ∨ directory.bytes.getLast? = some slash then directory ++ name else directory ++ "/" ++ name

/-- A path seen from a directory; an absolute path stays as it is. -/
def resolve (directory path : Path) : Path := if isAbsolute path then path else join directory path

/-- The greatest number of bytes of a path that a file system takes. -/
def maxBytes : Nat := 4095

/-- Whether a path is too long to name anything. -/
def isTooLong (path : Path) : Bool := maxBytes < path.bytes.length

/-- The bytes between slashes; there may be none. -/
def parts (path : Path) : List Path := (path.bytes.splitOn slash).map mk

/-- The parts that count for order: not the empty ones, nor the dots that change nothing. A dot at the beginning
counts. -/
def components (path : Path) : List Path :=
  match parts path with
  | [] => []
  | first :: rest => (first :: rest.filter (· ≠ ".")).filter (· ≠ "")

/-- What comes after a file name's last dot, unless that dot is its first byte. -/
def extension? (name : Path) : Option Path :=
  match name.bytes.splitOn dot with
  | [] | [_] | [[], _] => none
  | pieces => pieces.getLast?.map mk

/-! ## Order -/

/-- The order of parts by their bytes. -/
def partBefore (s t : Path) : Bool := s.bytes.lex t.bytes fun a b => decide (a.toNat < b.toNat)

/-- Order by components; a path comes before those below it. -/
def le (a b : Path) : Bool := !(components b).lex (components a) partBefore

theorem partBefore_iff {s t : Path} :
    partBefore s t = true ↔ List.Lex (fun a b => a.toNat < b.toNat) s.bytes t.bytes := by
  simp [partBefore, List.lex_eq_true_iff_lex]

theorem partBefore_trans {s t u : Path} (hst : partBefore s t = true) (htu : partBefore t u = true) :
    partBefore s u = true :=
  partBefore_iff.2 (List.lex_trans Nat.lt_trans (partBefore_iff.1 hst) (partBefore_iff.1 htu))

theorem partBefore_asymm {s t : Path} (hst : partBefore s t = true) : partBefore t s = false := by
  rw [Bool.eq_false_iff]
  exact fun hts => List.lex_asymm Nat.lt_asymm (partBefore_iff.1 hst) (partBefore_iff.1 hts)

theorem eq_of_not_partBefore {s t : Path} (hst : partBefore s t = false) (hts : partBefore t s = false) : s = t := by
  apply bytes_inj.1
  apply List.lex_trichotomous (r := fun a b : UInt8 => a.toNat < b.toNat)
  · intro a b hab hba
    exact UInt8.toNat_inj.1 (Nat.le_antisymm (Nat.not_lt.1 hba) (Nat.not_lt.1 hab))
  · exact fun h => Bool.eq_false_iff.1 hts (partBefore_iff.2 h)
  · exact fun h => Bool.eq_false_iff.1 hst (partBefore_iff.2 h)

theorem le_iff {a b : Path} :
    le a b = true ↔ ¬ List.Lex (fun s t => partBefore s t = true) (components b) (components a) := by
  rw [le, Bool.not_eq_true', Bool.eq_false_iff, Ne, List.lex_eq_true_iff_lex]

protected theorem le_total (a b : Path) : le a b = true ∨ le b a = true := by
  by_cases h : List.Lex (fun s t => partBefore s t = true) (components b) (components a)
  · exact .inr (le_iff.2 (List.lex_asymm (fun hst => Bool.eq_false_iff.1 (partBefore_asymm hst)) h))
  · exact .inl (le_iff.2 h)

theorem components_eq_of_le {a b : Path} (hab : le a b = true) (hba : le b a = true) :
    components a = components b := by
  apply List.lex_trichotomous (r := fun s t => partBefore s t = true) _ (le_iff.1 hab) (le_iff.1 hba)
  intro s t hst hts
  exact eq_of_not_partBefore (Bool.eq_false_iff.2 hst) (Bool.eq_false_iff.2 hts)

protected theorem le_trans {a b c : Path} (hab : le a b = true) (hbc : le b c = true) : le a c = true := by
  rw [le_iff]
  intro hca
  by_cases h : List.Lex (fun s t => partBefore s t = true) (components a) (components b)
  · exact le_iff.1 hbc (List.lex_trans partBefore_trans hca h)
  · have heq : components a = components b := components_eq_of_le hab (le_iff.2 h)
    exact le_iff.1 hbc (heq ▸ hca)

end Path

end DefectTrail
