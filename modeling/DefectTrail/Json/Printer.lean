import DefectTrail.Json

/-!
# Writing JSON

Two layouts of the same value: `compact` has no blanks at all, `pretty` gives each item and each member a line of
its own, two spaces further in than the line that opens the array or object. Both escape a quote, a backslash and
the control characters below the space, and nothing else. A value that cannot be read is written as `null`.
-/

namespace DefectTrail.Json

/-- The hexadecimal digit of a number below 16. -/
def hexDigit (n : Nat) : Char := Nat.digitChar n

/-- How a character is written inside a string. -/
def escapeChar (c : Char) : List Char :=
  if c = '"' then ['\\', '"']
  else if c = '\\' then ['\\', '\\']
  else if c = '\x08' then ['\\', 'b']
  else if c = '\x0c' then ['\\', 'f']
  else if c = '\n' then ['\\', 'n']
  else if c = '\r' then ['\\', 'r']
  else if c = '\t' then ['\\', 't']
  else if c.toNat < 0x20 then ['\\', 'u', '0', '0', hexDigit (c.toNat / 16), hexDigit (c.toNat % 16)]
  else [c]

/-- A string between its quotes. -/
def quote (s : String) : List Char := '"' :: (s.toList.flatMap escapeChar ++ ['"'])

/-! ## Compact layout -/

mutual

def compactChars : Json → List Char
  | .null => ['n', 'u', 'l', 'l']
  | .bool true => ['t', 'r', 'u', 'e']
  | .bool false => ['f', 'a', 'l', 's', 'e']
  | .int n => (toString n).toList
  | .real literal => literal.toList
  | .unreadable => ['n', 'u', 'l', 'l']
  | .string s => quote s
  | .array [] => ['[', ']']
  | .array (x :: xs) => '[' :: (compactChars x ++ compactItems xs)
  | .object [] => ['{', '}']
  | .object ((k, v) :: ms) => '{' :: (quote k ++ ':' :: (compactChars v ++ compactMembers ms))

/-- The items after the first, and the closing bracket. -/
def compactItems : List Json → List Char
  | [] => [']']
  | x :: xs => ',' :: (compactChars x ++ compactItems xs)

/-- The members after the first, and the closing brace. -/
def compactMembers : List (String × Json) → List Char
  | [] => ['}']
  | (k, v) :: ms => ',' :: (quote k ++ ':' :: (compactChars v ++ compactMembers ms))

end

def compact (v : Json) : String := String.ofList v.compactChars

/-! ## Pretty layout -/

/-- A line break and the indentation of a line at the given nesting. -/
def newLine (level : Nat) : List Char := '\n' :: List.replicate (2 * level) ' '

mutual

/-- The value on lines at the given nesting, without the indentation of its first line. -/
def prettyChars (level : Nat) : Json → List Char
  | .null => ['n', 'u', 'l', 'l']
  | .bool true => ['t', 'r', 'u', 'e']
  | .bool false => ['f', 'a', 'l', 's', 'e']
  | .int n => (toString n).toList
  | .real literal => literal.toList
  | .unreadable => ['n', 'u', 'l', 'l']
  | .string s => quote s
  | .array [] => ['[', ']']
  | .array (x :: xs) => '[' :: (newLine (level + 1) ++ prettyChars (level + 1) x ++ prettyItems level xs)
  | .object [] => ['{', '}']
  | .object ((k, v) :: ms) =>
    '{' :: (newLine (level + 1) ++ quote k ++ ':' :: ' ' :: (prettyChars (level + 1) v ++ prettyMembers level ms))

/-- The items after the first, and the closing bracket on its own line. -/
def prettyItems (level : Nat) : List Json → List Char
  | [] => newLine level ++ [']']
  | x :: xs => ',' :: (newLine (level + 1) ++ prettyChars (level + 1) x ++ prettyItems level xs)

/-- The members after the first, and the closing brace on its own line. -/
def prettyMembers (level : Nat) : List (String × Json) → List Char
  | [] => newLine level ++ ['}']
  | (k, v) :: ms =>
    ',' :: (newLine (level + 1) ++ quote k ++ ':' :: ' ' :: (prettyChars (level + 1) v ++ prettyMembers level ms))

end

def pretty (v : Json) : String := String.ofList (v.prettyChars 0)

end DefectTrail.Json
