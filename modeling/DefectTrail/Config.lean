import DefectTrail.Json.Record
import DefectTrail.Text.Quoted

/-!
# Configurations

A configuration as it is written in a file, every field of which may be missing, the values that flags put in their
place, and what may be wrong with a configuration.
-/

namespace DefectTrail

/-- A configuration as written; a field without a value is not given. -/
structure Config where
  /-- The band colours by call depth. -/
  palette : Option (List String)
  fixitMarker : Option String
  strictAllocationReturns : Option Bool
  /-- The number of spaces for each level in text output. -/
  indentWidth : Option Nat
  /-- The patterns of files that are skipped in a directory. -/
  exclude : List String
  deriving DecidableEq, Repr

/-- Values that replace those of a file; strict allocation returns can only be switched on. -/
structure Overrides where
  palette : Option (List String)
  fixitMarker : Option String
  strictAllocationReturns : Bool
  indentWidth : Option Nat
  deriving DecidableEq, Repr

/-- No value is replaced. -/
def Overrides.none : Overrides := ⟨.none, .none, false, .none⟩

namespace Config

/-- The configuration with no field given. -/
def empty : Config := ⟨none, none, none, none, []⟩

/-- The configuration with the given values in place; the patterns stay. -/
def override (c : Config) (o : Overrides) : Config where
  palette := o.palette <|> c.palette
  fixitMarker := o.fixitMarker <|> c.fixitMarker
  strictAllocationReturns := if o.strictAllocationReturns then some true else c.strictAllocationReturns
  indentWidth := o.indentWidth <|> c.indentWidth
  exclude := c.exclude

@[simp] theorem override_none (c : Config) : c.override .none = c := by
  cases c; simp [override, Overrides.none]

/-! ## JSON -/

def shape : Json.Shape :=
  ⟨[⟨"palette", .defaulted⟩, ⟨"fixit_marker", .defaulted⟩, ⟨"strict_allocation_returns", .defaulted⟩,
    ⟨"indent_width", .defaulted⟩, ⟨"exclude", .defaulted⟩], true⟩

def ofJson? (v : Json) : Option Config := do
  match ← v.fields? shape with
  | [palette, fixitMarker, strictAllocationReturns, indentWidth, exclude] =>
    return ⟨← Json.optional? (Json.ofArray? Json.ofString?) palette, ← Json.optional? Json.ofString? fixitMarker,
      ← Json.optional? Json.ofBool? strictAllocationReturns, ← Json.optional? Json.ofWord? indentWidth,
      ← Json.defaulted? [] (Json.ofArray? Json.ofString?) exclude⟩
  | _ => none

/-- All fields, those without a value as `null`. -/
def toJson (c : Config) : Json :=
  .object [("palette", Json.nullable (fun colors => .array (colors.map .string)) c.palette),
    ("fixit_marker", Json.nullable .string c.fixitMarker),
    ("strict_allocation_returns", Json.nullable .bool c.strictAllocationReturns),
    ("indent_width", Json.nullable .ofNat c.indentWidth),
    ("exclude", .array (c.exclude.map .string))]

/-! ## Faults -/

/-- What is wrong with a configuration. -/
inductive Fault where
  | emptyPalette
  | paletteTooLong (count : Nat)
  | badColor (index : Nat) (color : String)
  | emptyFixitMarker
  | indentWidthOutOfRange (width : Nat)
  | badPattern (pattern : String)
  /-- The patterns are refused where expressions are made of them, for the given reason. -/
  | refusedPatterns (reason : String)
  deriving DecidableEq, Repr

/-- The greatest number of colours. -/
def maxPaletteLength : Nat := 32

/-- The greatest indent width. -/
def maxIndentWidth : Nat := 16

/-- What is said about a colour that is none. -/
def badColorMessage (color : String) : String :=
  "invalid colour " ++ Text.quoted color ++ ": expected #rgb or #rrggbb"

namespace Fault

/-- The fault in words, from the outside in. Where there are none, `reason` still says something. -/
def messages : Fault → List String
  | emptyPalette => ["palette must contain at least one colour"]
  | paletteTooLong count =>
    ["palette must contain at most " ++ toString maxPaletteLength ++ " colours (got " ++ toString count ++ ")"]
  | badColor index color => ["palette[" ++ toString index ++ "]", badColorMessage color]
  | emptyFixitMarker => ["fixit_marker must not be empty"]
  | indentWidthOutOfRange width =>
    ["indent_width must be between 1 and " ++ toString maxIndentWidth ++ " (got " ++ toString width ++ ")"]
  | badPattern pattern => ["invalid exclude pattern: " ++ pattern]
  | refusedPatterns _ => []

/-- What is said about a fault that has no words of its own. -/
def reason : Fault → String
  | refusedPatterns reason => reason
  | fault => ": ".intercalate fault.messages

end Fault

end Config

end DefectTrail
