import DefectTrail.FileTree.Path
import DefectTrail.Glob.Strategy

/-!
# Matching globs

A pattern is followed on all its possibilities at once. `Marks` are flags at the places before, between and after the
bytes of a path: a place is marked when the tokens read so far can take exactly the bytes before it. Each token moves
the marks, and the pattern takes the path when the last place is marked in the end.

A path that ends in two dots names no file, so patterns that ask for a file's name or extension do not accept it,
whatever its bytes are.
-/

namespace DefectTrail.Glob

/-! ## Marks -/

/-- A flag for each place of a path, one more than it has bytes. -/
abbrev Marks := List Bool

namespace Marks

/-- The first place alone is marked. -/
def start (bytes : List UInt8) : Marks := true :: bytes.map fun _ => false

/-- The marks after one more byte, which has to be one that `holds` admits. -/
def afterByte (holds : UInt8 → Bool) (bytes : List UInt8) (marks : Marks) : Marks :=
  false :: List.zipWith (fun byte mark => mark && holds byte) bytes marks

/-- All places from the first mark on; `seen` says that there is one further in front. -/
def onwards (seen : Bool) : Marks → Marks
  | [] => []
  | mark :: marks => (seen || mark) :: onwards (seen || mark) marks

/-- The marks after any number of bytes. -/
def afterBytes (marks : Marks) : Marks := marks.onwards false

/-- The places that are marked on either side. -/
def union (a b : Marks) : Marks := List.zipWith (fun x y => x || y) a b

/-- No place is marked. -/
def none (marks : Marks) : Marks := marks.map fun _ => false

end Marks

/-! ## Moving the marks -/

def isSlash (byte : UInt8) : Bool := byte == 47

mutual

/-- The marks after the token has taken its part. -/
def Token.move (bytes : List UInt8) : Token → Marks → Marks
  | .literal c, marks =>
    (String.utf8EncodeChar c).foldl (fun marks byte => marks.afterByte (fun b => b == byte) bytes) marks
  | .anyByte, marks => marks.afterByte (fun _ => true) bytes
  | .anyBytes, marks => marks.afterBytes
  | .leadingDirs, marks => marks.union (marks.afterBytes.afterByte isSlash bytes)
  | .innerDirs, marks =>
    let inside := marks.afterByte isSlash bytes
    inside.union (inside.afterBytes.afterByte isSlash bytes)
  | .trailingPath, marks => (marks.afterByte isSlash bytes).afterBytes
  | .byteClass negated ranges, marks =>
    let members := ranges.flatMap byteRanges
    marks.afterByte (fun b => members.any (fun (low, high) => low ≤ b && b ≤ high) != negated) bytes
  | .alternatives branches, marks =>
    if branches.isEmpty then marks else branchesMove bytes branches marks

/-- The marks after all tokens have taken their parts one after the other. -/
def tokensMove (bytes : List UInt8) : List Token → Marks → Marks
  | [], marks => marks
  | t :: ts, marks => tokensMove bytes ts (t.move bytes marks)

/-- The marks after one of the alternatives. -/
def branchesMove (bytes : List UInt8) : List (List Token) → Marks → Marks
  | [], marks => marks.none
  | b :: bs, marks => (tokensMove bytes b marks).union (branchesMove bytes bs marks)

end

/-- Whether the tokens take the path whole. -/
def takes (pattern : List Token) (path : String) : Bool :=
  let bytes := Text.utf8 path.toList
  (tokensMove bytes pattern (Marks.start bytes)).getLast? == some true

/-! ## File names -/

/-- A path names a file unless it ends in two dots. -/
def hasName (path : String) : Bool := (Path.parts path).getLast? != some (Path.ofString "..")

/-- Whether a pattern accepts a path. Leading directories alone accept every path. -/
def accepts (pattern : List Token) (path : String) : Bool :=
  match pattern with
  | [.leadingDirs] => true
  | pattern => (hasName path || !(strategy pattern).asksName) && takes pattern path

end DefectTrail.Glob
