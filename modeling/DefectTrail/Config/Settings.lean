import DefectTrail.Annotation
import DefectTrail.Config
import DefectTrail.FileTree.Path
import DefectTrail.Glob.Compiler
import DefectTrail.Glob.Match
import DefectTrail.Glob.Parser

/-!
# Settings

A configuration that has been checked, with defaults in place of the missing fields. `Config.check` looks at the
palette, the fix-it marker, the indent width and the patterns in this order, and the first fault found is the answer.
`Config.resolve` also makes the patterns ready to be tried on paths, which may be refused.
-/

namespace DefectTrail

/-- What a run works with. -/
structure Settings where
  palette : Palette
  fixitMarker : String
  strictAllocationReturns : Bool
  indentWidth : Nat
  exclude : List (List Glob.Token)
  /-- The file that the configuration comes from, if there is one. -/
  source : Option Path

namespace Settings

/-- Whether a file met in a directory is read. -/
def includes (s : Settings) (path : Path) : Bool := !s.exclude.any (Glob.accepts · path.text)

/-- The settings that concern annotation. -/
def annotateOptions (s : Settings) : AnnotateOptions := ⟨s.palette, s.fixitMarker, s.strictAllocationReturns⟩

end Settings

namespace Config

/-- The indent width used where none is given. -/
def defaultIndentWidth : Nat := 2

/-- Whether a character is a hexadecimal digit, in either case. -/
def isHexDigit (c : Char) : Bool := c.isDigit || ('a' ≤ c && c ≤ 'f') || ('A' ≤ c && c ≤ 'F')

/-- A hash sign and three or six hexadecimal digits. -/
def isHexColor (color : String) : Bool :=
  match color.toList with
  | '#' :: digits => (digits.length == 3 || digits.length == 6) && digits.all isHexDigit
  | _ => false

/-! ## Checks of the fields -/

/-- A palette has at least one colour and at most `maxPaletteLength`, each a hexadecimal one. -/
def checkPalette (colors : List String) : Except Fault Palette :=
  match Palette.ofColors? colors with
  | none => .error .emptyPalette
  | some palette =>
    if maxPaletteLength < colors.length then .error (.paletteTooLong colors.length)
    else
      match colors.zipIdx.find? fun (color, _) => !isHexColor color with
      | some (color, index) => .error (.badColor index color)
      | none => .ok palette

/-- A fix-it marker is not empty. -/
def checkFixitMarker (marker : String) : Except Fault String :=
  if marker = "" then .error .emptyFixitMarker else .ok marker

/-- An indent width lies between 1 and `maxIndentWidth`. -/
def checkIndentWidth (width : Nat) : Except Fault Nat :=
  if width = 0 ∨ maxIndentWidth < width then .error (.indentWidthOutOfRange width) else .ok width

/-- A pattern is a glob. -/
def checkPattern (pattern : String) : Except Fault (List Glob.Token) :=
  match Glob.parse? pattern with
  | some tokens => .ok tokens
  | none => .error (.badPattern pattern)

/-- The checked value of a field, or its default. -/
def checkField {α β : Type} (check : α → Except Fault β) (default : β) : Option α → Except Fault β
  | none => .ok default
  | some a => check a

/-! ## Resolution -/

/-- The settings that the fields of a configuration stand for, or the first fault of a field. -/
def check (c : Config) : Except Fault Settings := do
  let palette ← checkField checkPalette Palette.default c.palette
  let fixitMarker ← checkField checkFixitMarker AnnotateOptions.default.fixitMarker c.fixitMarker
  let indentWidth ← checkField checkIndentWidth defaultIndentWidth c.indentWidth
  let exclude ← c.exclude.mapM checkPattern
  return ⟨palette, fixitMarker, c.strictAllocationReturns.getD false, indentWidth, exclude, none⟩

/-- The settings that a configuration stands for, or its first fault. -/
def resolve [Glob.Compiler] (c : Config) : Except Fault Settings := do
  let settings ← c.check
  match Glob.Compiler.refusal? settings.exclude with
  | some reason => throw (.refusedPatterns reason)
  | none => return settings

/-- What is wrong with a field of the configuration, if anything is. -/
def fault? (c : Config) : Option Fault :=
  match c.check with
  | .error fault => some fault
  | .ok _ => none

theorem fault?_eq_none_iff {c : Config} : c.fault? = none ↔ ∃ s, c.check = .ok s := by
  unfold fault?
  cases c.check <;> simp

end Config

end DefectTrail
