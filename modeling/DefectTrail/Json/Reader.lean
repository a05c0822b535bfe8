import DefectTrail.Json
import DefectTrail.Json.Numeral

/-!
# Reading JSON

`Json.parse?` reads one strict JSON document: blanks are space, tab, line feed and carriage return, strings hold no
raw control character, and numbers have no leading zero. What is well formed but beyond what can be read becomes an
`unreadable` value: numbers that are too large, strings with unpaired surrogates, and arrays and objects inside
`maxDepth` others.

Each reader takes the remaining characters and gives a value with what follows it. `value` recurses on the nesting
that is still allowed, and the loop over the items of one array or object on the number of characters left. `passOver`
goes through deeper arrays and objects without reading them; it keeps the marks that have to close them in a list.
-/

namespace DefectTrail.Json

/-- The number of arrays and objects that may be nested. -/
def maxDepth : Nat := 127

def isBlank (c : Char) : Bool := c == ' ' || c == '\t' || c == '\n' || c == '\r'

def skipBlanks (cs : List Char) : List Char := cs.dropWhile isBlank

/-! ## Strings -/

def hexDigit? (c : Char) : Option Nat :=
  if '0' ≤ c ∧ c ≤ '9' then some (c.toNat - '0'.toNat)
  else if 'a' ≤ c ∧ c ≤ 'f' then some (c.toNat - 'a'.toNat + 10)
  else if 'A' ≤ c ∧ c ≤ 'F' then some (c.toNat - 'A'.toNat + 10)
  else none

/-- The value of four hexadecimal digits. -/
def codeUnit? (a b c d : Char) : Option Nat := do
  return 4096 * (← hexDigit? a) + 256 * (← hexDigit? b) + 16 * (← hexDigit? c) + (← hexDigit? d)

/-- The character that a backslash and `c` stand for. -/
def escape? (c : Char) : Option Char :=
  match c with
  | '"' => some '"'
  | '\\' => some '\\'
  | '/' => some '/'
  | 'b' => some '\x08'
  | 'f' => some '\x0c'
  | 'n' => some '\n'
  | 'r' => some '\r'
  | 't' => some '\t'
  | _ => none

def isLeadingSurrogate (u : Nat) : Bool := 0xD800 ≤ u && u < 0xDC00

def isTrailingSurrogate (u : Nat) : Bool := 0xDC00 ≤ u && u < 0xE000

/-- The character of a pair of surrogates. -/
def ofSurrogates (u v : Nat) : Char := Char.ofNat (0x10000 + (u - 0xD800) * 0x400 + (v - 0xDC00))

/-- Reads a string from after its opening quote to its closing one. A string with an unpaired surrogate has no text. -/
def stringBody : List Char → Option (Option (List Char) × List Char)
  | [] => none
  | '"' :: rest => some (some [], rest)
  | '\\' :: 'u' :: a :: b :: c :: d :: rest => do
    let u ← codeUnit? a b c d
    if isLeadingSurrogate u then
      match rest with
      | '\\' :: 'u' :: a' :: b' :: c' :: d' :: rest' =>
        let v ← codeUnit? a' b' c' d'
        let (s, after) ← stringBody rest'
        return (if isTrailingSurrogate v then s.map (ofSurrogates u v :: ·) else none, after)
      | rest =>
        let (_, after) ← stringBody rest
        return (none, after)
    else
      let (s, after) ← stringBody rest
      return (if isTrailingSurrogate u then none else s.map (Char.ofNat u :: ·), after)
  | '\\' :: e :: rest => do
    let c ← escape? e
    let (s, after) ← stringBody rest
    return (s.map (c :: ·), after)
  | c :: rest =>
    if c.toNat < 0x20 ∨ c = '\\' then none
    else do
      let (s, after) ← stringBody rest
      return (s.map (c :: ·), after)

/-! ## Numbers -/

def isNumberChar (c : Char) : Bool := c.isDigit || c == '-' || c == '+' || c == '.' || c == 'e' || c == 'E'

/-- The value of a number literal. -/
def ofLiteral? (literal : List Char) : Option Json := do
  let n ← Numeral.ofChars? literal
  if n.overflows then return .unreadable
  else return match n.toInt? with
    | some i => .int i
    | none => .real (String.ofList literal)

/-! ## Values -/

/-- The value of a string. -/
def ofText : Option (List Char) → Json
  | some s => .string (String.ofList s)
  | none => .unreadable

/-- Reads a value that holds no other. -/
def scalar (cs : List Char) : Option (Json × List Char) :=
  match cs with
  | 'n' :: 'u' :: 'l' :: 'l' :: rest => some (.null, rest)
  | 't' :: 'r' :: 'u' :: 'e' :: rest => some (.bool true, rest)
  | 'f' :: 'a' :: 'l' :: 's' :: 'e' :: rest => some (.bool false, rest)
  | '"' :: rest => (stringBody rest).map fun (s, after) => (ofText s, after)
  | cs =>
    let (literal, rest) := cs.span isNumberChar
    (ofLiteral? literal).map fun v => (v, rest)

/-- Reads items with commas between them up to the closing mark; `fuel` bounds their number. -/
def items {α : Type} (close : Char) (item : List Char → Option (α × List Char)) :
    Nat → List Char → Option (List α × List Char)
  | 0, _ => none
  | fuel + 1, cs => do
    let (x, rest) ← item cs
    match skipBlanks rest with
    | [] => none
    | c :: rest =>
      if c = close then return ([x], rest)
      else if c = ',' then
        let (xs, after) ← items close item fuel rest
        return (x :: xs, after)
      else none

/-- Reads the inside of an array or object, which may be empty, and its closing mark. -/
def enclosed {α : Type} (close : Char) (item : List Char → Option (α × List Char)) (cs : List Char) :
    Option (List α × List Char) :=
  match skipBlanks cs with
  | [] => none
  | c :: rest => if c = close then some ([], rest) else items close item cs.length cs

/-- Reads a key and a colon. -/
def key (cs : List Char) : Option (Option (List Char) × List Char) :=
  match skipBlanks cs with
  | '"' :: rest => do
    let (name, rest) ← stringBody rest
    match skipBlanks rest with
    | ':' :: rest => return (name, rest)
    | _ => none
  | _ => none

/-- Reads a key, a colon and a value; without a name it is no member. -/
def member (value : List Char → Option (Json × List Char)) (cs : List Char) :
    Option (Option (String × Json) × List Char) := do
  let (name, rest) ← key cs
  let (v, after) ← value rest
  return (name.map fun s => (String.ofList s, v), after)

/-- The object of the given members; it cannot be read if one of them has no name. -/
def ofMembers (members : List (Option (String × Json))) : Json :=
  match members.mapM id with
  | some ms => .object ms
  | none => .unreadable

/-! ## Arrays and objects that are passed over -/

/-- What is due inside the innermost open array or object. -/
inductive Due where
  /-- A key, in an object, and a value. -/
  | item
  /-- An item, or the closing mark of an array or object that has just been opened. -/
  | firstItem
  /-- A comma, or the closing mark. -/
  | separator

/-- Passes over what is left of the open arrays and objects, given the marks that close them, the innermost first, and
gives what follows the outermost one. -/
def passOver : Nat → List Char → Due → List Char → Option (List Char)
  | 0, _, _, _ => none
  | _ + 1, [], _, cs => some cs
  | fuel + 1, close :: outer, .separator, cs =>
    match skipBlanks cs with
    | [] => none
    | c :: rest =>
      if c = close then passOver fuel outer .separator rest
      else if c = ',' then passOver fuel (close :: outer) .item rest
      else none
  | fuel + 1, close :: outer, .firstItem, cs =>
    match skipBlanks cs with
    | [] => none
    | c :: rest =>
      if c = close then passOver fuel outer .separator rest else passOver fuel (close :: outer) .item (c :: rest)
  | fuel + 1, close :: outer, .item, cs => do
    let rest ← if close = '}' then (key cs).map (·.2) else some cs
    match skipBlanks rest with
    | '[' :: rest => passOver fuel (']' :: close :: outer) .firstItem rest
    | '{' :: rest => passOver fuel ('}' :: close :: outer) .firstItem rest
    | rest =>
      let (_, rest) ← scalar rest
      passOver fuel (close :: outer) .separator rest

/-- Passes over an array or object from after its opening mark. Each character that is taken gives rise to at most two
steps. -/
def passOverFrom (close : Char) (cs : List Char) : Option (Json × List Char) :=
  (passOver (2 * cs.length + 2) [close] .firstItem cs).map fun rest => (.unreadable, rest)

/-! ## Documents -/

/-- Reads one value, blanks before it included; `depth` is the nesting still allowed. -/
def value : Nat → List Char → Option (Json × List Char)
  | 0, cs =>
    match skipBlanks cs with
    | '[' :: rest => passOverFrom ']' rest
    | '{' :: rest => passOverFrom '}' rest
    | cs => scalar cs
  | depth + 1, cs =>
    match skipBlanks cs with
    | '[' :: rest => (enclosed ']' (value depth) rest).map fun (xs, after) => (.array xs, after)
    | '{' :: rest => (enclosed '}' (member (value depth)) rest).map fun (ms, after) => (ofMembers ms, after)
    | cs => scalar cs

/-- Reads a document: one value and nothing but blanks around it. -/
def parse? (text : String) : Option Json :=
  match value maxDepth text.toList with
  | some (v, rest) => if skipBlanks rest = [] then some v else none
  | none => none

end DefectTrail.Json
