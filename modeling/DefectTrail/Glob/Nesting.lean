import DefectTrail.Glob.Token

/-!
# Nesting of globs

How deep the parts of a pattern lie within each other. A pattern may have at most `maxLevels` levels, which are:

* the pattern itself, as a sequence that begins and ends with the path, so that `maxLevels` groups in one another are
  already too many;
* a group of alternatives, and the choice between them if there are several;
* an alternative, if it is a sequence of several parts;
* a repetition, and a class, which is two levels if it has several members;
* leading and inner directories, which are four: a group, a choice, a sequence and a repetition.
-/

namespace DefectTrail.Glob

/-- The greatest number of levels. -/
def maxLevels : Nat := 250

/-- How many parts of a sequence a token makes up: a literal one for each of its bytes, one that stands for nothing
none. -/
def Token.width : Token → Nat
  | .literal c => (String.utf8EncodeChar c).length
  | .trailingPath => 2
  | .alternatives branches => if branches.isEmpty then 0 else 1
  | _ => 1

/-- A sequence is a level of its own if it has several parts. -/
def sequenceLevels (tokens : List Token) : Nat := if 1 < (tokens.map Token.width).foldl Nat.add 0 then 1 else 0

/-- A choice is a level of its own if it is between several alternatives. -/
def choiceLevels (branches : List (List Token)) : Nat := if 1 < branches.length then 1 else 0

mutual

/-- The levels of a token. -/
def Token.levels : Token → Nat
  | .literal _ | .anyByte => 0
  | .anyBytes | .trailingPath => 1
  | .leadingDirs | .innerDirs => 4
  | .byteClass _ ranges => if 1 < (ranges.flatMap byteRanges).length then 2 else 1
  | .alternatives branches =>
    if branches.isEmpty then 0 else 1 + choiceLevels branches + branchesLevels branches

/-- The levels of the deepest token. -/
def tokensLevels : List Token → Nat
  | [] => 0
  | t :: ts => Nat.max t.levels (tokensLevels ts)

/-- The levels of the deepest alternative. -/
def branchesLevels : List (List Token) → Nat
  | [] => 0
  | b :: bs => Nat.max (sequenceLevels b + tokensLevels b) (branchesLevels bs)

end

/-- Whether a pattern is nested too deep; the whole pattern counts as a sequence. -/
def tooDeep (pattern : List Token) : Bool := maxLevels < 1 + tokensLevels pattern

theorem tooDeep_eq_false_iff {pattern : List Token} :
    tooDeep pattern = false ↔ 1 + tokensLevels pattern ≤ maxLevels := by
  rw [tooDeep, decide_eq_false_iff_not, Nat.not_lt]

end DefectTrail.Glob
