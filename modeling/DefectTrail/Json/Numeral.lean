/-!
# Number literals

The grammar of a JSON number and the rule for the numbers that are too large to be read.

A literal is read as its leading digits, as many as a 64-bit word holds, times a power of ten. Both factors are
rounded to the nearest double, and so is their product; the literal cannot be read when that product is infinite
(`Numeral.overflows`). The arithmetic is exact: `nearestDouble` rounds a natural number to 53 significant bits.
-/

namespace DefectTrail

/-- A number literal: sign, digits before and after the point, exponent. -/
structure Numeral where
  negative : Bool
  whole : List Char
  fraction : List Char
  exponent : Option Int
  deriving DecidableEq

namespace Numeral

/-- The value of a run of decimal digits. -/
def digitsValue (digits : List Char) : Nat := digits.foldl (fun n c => 10 * n + (c.toNat - '0'.toNat)) 0

/-- The exponent at the end of a literal, if there is one; nothing may follow it. -/
def exponentOf? : List Char → Option (Option Int)
  | [] => some none
  | e :: rest =>
    if e = 'e' ∨ e = 'E' then
      let (negative, digits) := match rest with
        | '-' :: ds => (true, ds)
        | '+' :: ds => (false, ds)
        | ds => (false, ds)
      if digits ≠ [] ∧ digits.all Char.isDigit then
        let value := (digitsValue digits : Int)
        some (some (if negative then -value else value))
      else none
    else none

/-- Reads a whole literal: no leading zero, and a digit on each side of the point and after the exponent's mark. -/
def ofChars? (literal : List Char) : Option Numeral :=
  let (negative, body) := match literal with
    | '-' :: cs => (true, cs)
    | cs => (false, cs)
  let (whole, rest) := body.span Char.isDigit
  if whole = [] ∨ (whole.head? = some '0' ∧ whole ≠ ['0']) then none
  else
    match rest with
    | '.' :: cs =>
      let (fraction, rest) := cs.span Char.isDigit
      if fraction = [] then none
      else (exponentOf? rest).map fun e => ⟨negative, whole, fraction, e⟩
    | rest => (exponentOf? rest).map fun e => ⟨negative, whole, [], e⟩

/-- The value of an integer literal: no fraction, no exponent, and not `-0`. -/
def toInt? (n : Numeral) : Option Int :=
  if n.fraction = [] ∧ n.exponent = none then
    let value := (digitsValue n.whole : Int)
    if n.negative then (if value = 0 then none else some (-value)) else some value
  else none

/-! ## Magnitude -/

/-- The digits read into a 64-bit word, and how many digits of `digits` did not fit. -/
def wordOf (start : Nat) (digits : List Char) : Nat × Nat :=
  digits.foldl (fun (word, left) c =>
    let next := 10 * word + (c.toNat - '0'.toNat)
    if left = 0 ∧ next < UInt64.size then (next, 0) else (word, left + 1)) (start, 0)

/-- The natural number of 53 significant bits nearest to `n`; of two, the one with an even last bit. -/
def nearestDouble (n : Nat) : Nat :=
  let unit := 1 <<< (n.log2 - 52)
  let quotient := n / unit
  let remainder := 2 * (n % unit)
  (if unit < remainder ∨ (remainder = unit ∧ quotient % 2 = 1) then quotient + 1 else quotient) * unit

/-- The least magnitude that rounds to infinity. -/
def infinityThreshold : Nat := (1 <<< 1024) - (1 <<< 970)

/-- Whether `word`, of 64 bits, times the `scale`-th power of ten is infinite as a double. The word alone is not. -/
def infinite (word : Nat) (scale : Int) : Bool :=
  decide (word ≠ 0) && decide (0 < scale) &&
    (decide (308 < scale) ||
      decide (infinityThreshold ≤ nearestDouble word * nearestDouble (Nat.pow 10 scale.toNat)))

/-- Whether the literal is too large to be read. A plain integer is read exactly as long as a word holds it. -/
def overflows (n : Numeral) : Bool :=
  let (word, dropped) := wordOf 0 n.whole
  let (word, unread) := wordOf word n.fraction
  let scale : Int := dropped - (n.fraction.length - unread : Nat)
  infinite word (scale + n.exponent.getD 0)

end Numeral

end DefectTrail
