import DefectTrail.Glob.Token

/-!
# Reading glob patterns

`Glob.parse?` turns the text of a pattern into tokens. It fails on an unclosed class, a class range whose ends are
reversed, braces that do not pair up, and a backslash at the end.

What two stars mean depends on what stands around them. At the beginning of a pattern or of an alternative, and with a
slash or the end after them, they stand for leading directories. After a slash, which is then part of the token, they
stand for inner directories or for the rest of the path. Anywhere else they are two single stars.
-/

namespace DefectTrail.Glob

/-- The tokens read so far. The lists are reversed: `current` is the branch being read, `branches` are the finished
branches of the innermost open group, and `outer` holds both for each group or pattern around it. -/
structure Builder where
  current : List Token
  branches : List (List Token)
  outer : List (List Token × List (List Token))

namespace Builder

def start : Builder := ⟨[], [], []⟩

def inGroup (b : Builder) : Bool := !b.outer.isEmpty

def push (b : Builder) (t : Token) : Builder := { b with current := t :: b.current }

def openGroup (b : Builder) : Builder := ⟨[], [], (b.current, b.branches) :: b.outer⟩

/-- Closes the innermost group, if one is open. -/
def closeGroup? (b : Builder) : Option Builder :=
  match b.outer with
  | [] => none
  | (current, branches) :: outer =>
    some ⟨.group (b.current.reverse :: b.branches).reverse :: current, branches, outer⟩

/-- A comma begins the next branch of a group and is a literal elsewhere. -/
def comma (b : Builder) : Builder :=
  if b.inGroup then { b with current := [], branches := b.current.reverse :: b.branches } else b.push (.literal ',')

/-- Puts a token in the place of the last one, unless that already stands for directories at an end. -/
def replaceLast (b : Builder) (t : Token) : Builder :=
  match b.current with
  | .leadingDirs :: _ | .trailingPath :: _ => b
  | _ :: ts => { b with current := t :: ts }
  | [] => b

/-- Two single stars. -/
def twoStars (b : Builder) : Builder := (b.push .anyBytes).push .anyBytes

/-- Takes two stars, given the characters around them, and tells whether the character after them belongs to the
token. -/
def doubleStar (b : Builder) (before after : Option Char) : Builder × Bool :=
  if b.current.isEmpty then
    if after = none ∨ after = some '/' then (b.push .leadingDirs, after = some '/') else (b.twoStars, false)
  else if before = some '/' ∨ (b.inGroup ∧ (before = some ',' ∨ before = some '{')) then
    if after = none ∨ (b.inGroup ∧ (after = some ',' ∨ after = some '}')) then (b.replaceLast .trailingPath, false)
    else if after = some '/' then (b.replaceLast .innerDirs, true)
    else (b.twoStars, false)
  else (b.twoStars, false)

/-- The whole pattern's tokens, if no group is left open. -/
def finish? (b : Builder) : Option (List Token) := if b.inGroup then none else some b.current.reverse

end Builder

mutual

/-- Reads the rest of a pattern after the character `before`. -/
def scan (b : Builder) (before : Option Char) : List Char → Option (List Token)
  | [] => b.finish?
  | '?' :: cs => scan (b.push .anyByte) (some '?') cs
  | '*' :: '*' :: cs =>
    let (b', takesNext) := b.doubleStar before cs.head?
    match takesNext, cs with
    | true, c :: cs => scan b' (some c) cs
    | _, cs => scan b' (some '*') cs
  | '*' :: cs => scan (b.push .anyBytes) (some '*') cs
  | '[' :: '!' :: cs => scanClass b true [] true false cs
  | '[' :: '^' :: cs => scanClass b true [] true false cs
  | '[' :: cs => scanClass b false [] true false cs
  | '{' :: cs => scan b.openGroup (some '{') cs
  | '}' :: cs => b.closeGroup?.bind fun b' => scan b' (some '}') cs
  | ',' :: cs => scan b.comma (some ',') cs
  | '\\' :: c :: cs => scan (b.push (.literal c)) (some c) cs
  | ['\\'] => none
  | c :: cs => scan (b.push (.literal c)) (some c) cs

/-- Reads the rest of a class with the ranges read so far, the last one first. A bracket or dash in `first` place is a
member; `inRange` says that a dash after a member is waiting for the end of a range. -/
def scanClass (b : Builder) (negated : Bool) (ranges : List (Char × Char)) (first inRange : Bool) :
    List Char → Option (List Token)
  | [] => none
  | c :: cs =>
    if c = ']' ∧ !first then
      let members := if inRange then ('-', '-') :: ranges else ranges
      scan (b.push (.byteClass negated members.reverse)) (some ']') cs
    else if c = '-' ∧ !first ∧ !inRange then scanClass b negated ranges false true cs
    else
      match inRange, ranges with
      | true, (low, _) :: ranges =>
        if c < low then none else scanClass b negated ((low, c) :: ranges) false false cs
      | _, ranges => scanClass b negated ((c, c) :: ranges) false false cs

end

def parse? (pattern : String) : Option (List Token) := scan .start none pattern.toList

end DefectTrail.Glob
