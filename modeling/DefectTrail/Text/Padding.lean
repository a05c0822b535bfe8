/-!
# Padding

Texts filled up with spaces to a width in characters; a longer text stays as it is.
-/

namespace DefectTrail.Text

def spaces (n : Nat) : String := String.ofList (List.replicate n ' ')

/-- The text followed by spaces. -/
def padRight (width : Nat) (s : String) : String := s ++ spaces (width - s.length)

/-- The text preceded by spaces. -/
def padLeft (width : Nat) (s : String) : String := spaces (width - s.length) ++ s

end DefectTrail.Text
