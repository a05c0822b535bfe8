import DefectTrail.Text.Invisible

/-!
# Quoted text

A text between double quotes as it is shown in messages. A quote, a backslash, tab, line feed, carriage return and the
null character are written with a backslash; a character that would not be shown as itself is written by its code
point.
-/

namespace DefectTrail.Text

/-- Whether a character appears as itself inside quotes. -/
def isShown (c : Char) : Bool :=
  let code := c.toNat
  if code < 0x80 then 0x20 ≤ code && code < 0x7F
  else !inRanges invisibleRanges code && !inRanges extendingRanges code

/-- A code point in lower-case hexadecimal digits between braces. -/
def codePoint (c : Char) : List Char := ['\\', 'u', '{'] ++ Nat.toDigits 16 c.toNat ++ ['}']

/-- How a character is written inside quotes. -/
def quotedChar (c : Char) : List Char :=
  match c with
  | '"' => ['\\', '"']
  | '\\' => ['\\', '\\']
  | '\t' => ['\\', 't']
  | '\n' => ['\\', 'n']
  | '\r' => ['\\', 'r']
  | '\x00' => ['\\', '0']
  | c => if isShown c then [c] else codePoint c

def quoted (s : String) : String := String.ofList ('"' :: (s.toList.flatMap quotedChar ++ ['"']))

end DefectTrail.Text
