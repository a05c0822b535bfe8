import DefectTrail.Glob.Token

/-!
# How patterns are tried

A pattern of a simple form is tried on a path by comparing texts: the file's name, its extension, or the beginning or
end of the path. Any other is made into an expression. If literal tokens with a dot in them end the pattern, its
expression is tried only on files of that extension, and is made on its own; the other expressions are made together.
-/

namespace DefectTrail.Glob

/-- How a pattern is tried on a path. -/
inductive Strategy where
  /-- The file's name is compared. -/
  | name
  /-- The extension of the file's name is compared. -/
  | extension
  /-- The whole path, its beginning or its end is compared. -/
  | text
  /-- An expression is tried on files with the pattern's extension. -/
  | requiredExtension
  /-- An expression is tried. -/
  | expression
  deriving DecidableEq, Repr

namespace Strategy

/-- Whether an expression is made. -/
def isExpression : Strategy → Bool
  | requiredExtension | expression => true
  | name | extension | text => false

/-- Whether a file's name is asked for. -/
def asksName : Strategy → Bool
  | name | extension | requiredExtension => true
  | text | expression => false

end Strategy

/-- The text of tokens that are all literal. -/
def literalText? : List Token → Option (List Char)
  | [] => some []
  | .literal c :: ts => (literalText? ts).map (c :: ·)
  | _ => none

/-- A dot and after it neither a dot nor a slash. -/
def isExtension : List Char → Bool
  | '.' :: cs => cs.all fun c => c != '.' && c != '/'
  | _ => false

/-- Whether the literals at the end of a pattern, which is given in reverse, hold an extension. -/
def endsInExtension : List Token → Bool
  | .literal '.' :: _ => true
  | .literal '/' :: _ => false
  | .literal _ :: ts => endsInExtension ts
  | _ => false

/-- Whether literals are all that stands before a wildcard at the end of a pattern. -/
def isBeginning (pattern : List Token) : Bool :=
  match pattern.getLast? with
  | some .anyBytes | some .trailingPath => (literalText? pattern.dropLast).isSome
  | _ => false

/-- How a text is tried that stands at the end of a pattern, after nothing but leading directories and a star, each of
which may be missing. Nothing is compared with an empty text, nor with a slash after a star. -/
def Strategy.ofEnding (anyDirectory anyText : Bool) (text : List Char) : Strategy :=
  if text = [] then .expression
  else if anyText then
    if isExtension text then .extension else if text = ['/'] then .expression else .text
  else if anyDirectory && !text.contains '/' then .name
  else .text

/-- Whether leading directories begin a pattern, and the tokens after them. -/
def splitLeadingDirs : List Token → Bool × List Token
  | .leadingDirs :: ts => (true, ts)
  | ts => (false, ts)

/-- Whether a star begins a pattern, and the tokens after it. -/
def splitStar : List Token → Bool × List Token
  | .anyBytes :: ts => (true, ts)
  | ts => (false, ts)

/-- How a pattern is tried. -/
def strategy (pattern : List Token) : Strategy :=
  let (anyDirectory, rest) := splitLeadingDirs pattern
  let (anyText, rest) := splitStar rest
  match literalText? rest with
  | some text => .ofEnding anyDirectory anyText text
  | none =>
    if isBeginning pattern then .text
    else if endsInExtension pattern.reverse then .requiredExtension
    else .expression

end DefectTrail.Glob
