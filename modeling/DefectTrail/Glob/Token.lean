import DefectTrail.Text.Utf8

/-!
# Glob tokens

The parts of a glob pattern. Matching is on the bytes of a path, so a wildcard may stop inside a character, and no
wildcard stops at a slash.
-/

namespace DefectTrail.Glob

inductive Token where
  | literal (c : Char)
  /-- Any one byte. -/
  | anyByte
  /-- Any number of bytes. -/
  | anyBytes
  /-- Nothing, a slash, or anything that ends in a slash. -/
  | leadingDirs
  /-- A slash, or anything that begins and ends with one. -/
  | innerDirs
  /-- A slash and anything after it. -/
  | trailingPath
  /-- One byte that is, or is not, among the given ranges of characters. -/
  | byteClass (negated : Bool) (ranges : List (Char × Char))
  /-- One of several token lists, or nothing if there are none. -/
  | alternatives (branches : List (List Token))
  deriving Inhabited, Repr

/-! ## Classes -/

/-- The byte ranges of a range of characters: a character stands for its bytes, and between two characters there is a
range from the last byte of the one to the first byte of the other. -/
def byteRanges (range : Char × Char) : List (UInt8 × UInt8) :=
  let low := Text.utf8 [range.1]
  let high := Text.utf8 [range.2]
  if range.1 = range.2 then low.map fun b => (b, b)
  else low.dropLast.map (fun b => (b, b)) ++ (low.getLast?.toList.zip high.head?.toList)
    ++ high.tail.map fun b => (b, b)

/-! ## Alternatives -/

/-- Whether a token stands for nothing. -/
def Token.isBlank : Token → Bool
  | .alternatives branches => branches.isEmpty
  | _ => false

/-- A group of alternatives. One that is blank throughout is no alternative, so that a group of such alternatives alone
stands for nothing. -/
def Token.group (branches : List (List Token)) : Token :=
  .alternatives (branches.filter fun branch => !branch.all Token.isBlank)

end DefectTrail.Glob
