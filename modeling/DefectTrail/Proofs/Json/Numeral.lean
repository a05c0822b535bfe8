import DefectTrail.Json.Reader
import Mathlib.Data.List.Basic
import Mathlib.Data.List.TakeDrop
import Mathlib.Data.List.TakeWhile

/-!
# Reading integers back

The decimal digits of a natural number are a number literal: they do not begin with a zero unless they are a single one
(`Numeral.head?_toDigits_eq_zero_iff`), and their value is the number (`Numeral.digitsValue_toDigits`). A number that a
64-bit word holds is read without dropping a digit (`Numeral.wordOf_eq`), so that its literal does not overflow.

* `Numeral.ofChars?_digits`, `Numeral.ofChars?_minus_digits` : digits, with or without a sign, are a whole literal;
* `Json.ofLiteral?_toString_eq` : an integer is read back from its decimal text, unless it is too large.
-/

namespace DefectTrail

namespace Numeral

/-! ## Digits -/

theorem digitsValue_toDigits (n : Nat) : digitsValue (Nat.toDigits 10 n) = n := by
  rw [digitsValue, ← Nat.ofDigitChars_eq_foldl (b := 10), Nat.ofDigitChars_ten_toDigits]

theorem isDigit_of_mem_toDigits {n : Nat} {c : Char} (h : c ∈ Nat.toDigits 10 n) : c.isDigit = true :=
  Nat.isDigit_of_mem_toDigits (by decide) (by decide) h

theorem toDigits_ne_minus_cons (n : Nat) (cs : List Char) : Nat.toDigits 10 n ≠ '-' :: cs := by
  intro h
  have hdigit : '-'.isDigit = true := isDigit_of_mem_toDigits (n := n) (h ▸ List.mem_cons_self)
  exact absurd hdigit (by decide)

/-- Only zero is written with a zero in front. -/
theorem head?_toDigits_eq_zero_iff {n : Nat} : (Nat.toDigits 10 n).head? = some '0' ↔ n = 0 := by
  induction n using Nat.strongRecOn with
  | ind n ih =>
      rw [Nat.toDigits_eq_if (by decide)]
      split
      · rw [List.head?_cons, Option.some_inj, Nat.digitChar_eq_zero]
      · -- the first digit is that of the number without its last one, which is not zero
        rw [List.head?_append_of_ne_nil _ Nat.toDigits_ne_nil, ih (n / 10) (by omega)]
        omega

/-! ## Words -/

/-- Digits whose value a word holds are all read into it. -/
theorem wordOf_eq {start : Nat} {digits : List Char} (h : Nat.ofDigitChars 10 digits start < UInt64.size) :
    wordOf start digits = (Nat.ofDigitChars 10 digits start, 0) := by
  induction digits generalizing start with
  | nil => rfl
  | cons c digits ih =>
      rw [Nat.ofDigitChars_cons] at h ⊢
      have hnext : 10 * start + (c.toNat - '0'.toNat) < UInt64.size := by
        rw [Nat.ofDigitChars_eq_ofDigitChars_zero] at h
        have hle := Nat.le_mul_of_pos_left (10 * start + (c.toNat - '0'.toNat))
          (Nat.pow_pos (n := digits.length) (show 0 < 10 by decide))
        omega
      have hstep : wordOf start (c :: digits) = wordOf (10 * start + (c.toNat - '0'.toNat)) digits := by
        simp only [wordOf, List.foldl_cons, true_and, if_pos hnext]
      rw [hstep, ih h]

theorem not_overflows_of_lt {negative : Bool} {n : Nat} (h : n < UInt64.size) :
    (Numeral.mk negative (Nat.toDigits 10 n) [] none).overflows = false := by
  have hword : wordOf 0 (Nat.toDigits 10 n) = (n, 0) := by
    rw [wordOf_eq (by rwa [Nat.ofDigitChars_ten_toDigits]), Nat.ofDigitChars_ten_toDigits]
  have hrest : wordOf n [] = (n, 0) := rfl
  -- no digit is dropped and there is no exponent, so that the power of ten is that of zero
  have hscale : infinite n 0 = false := by simp [infinite]
  simp only [overflows, hword, hrest]
  exact hscale

/-! ## Literals -/

theorem span_isDigit_toDigits (n : Nat) : (Nat.toDigits 10 n).span Char.isDigit = (Nat.toDigits 10 n, []) := by
  rw [List.span_eq_takeWhile_dropWhile, List.takeWhile_eq_self_iff.2 fun c hc => isDigit_of_mem_toDigits hc,
    List.dropWhile_eq_nil_iff.2 fun c hc => isDigit_of_mem_toDigits hc]

/-- The digits of a number are no empty literal, and have no zero in front of others. -/
theorem whole_toDigits (n : Nat) :
    ¬ (Nat.toDigits 10 n = [] ∨ (Nat.toDigits 10 n).head? = some '0' ∧ Nat.toDigits 10 n ≠ ['0']) := by
  rintro (hnil | ⟨hhead, hne⟩)
  · exact Nat.toDigits_ne_nil hnil
  · rw [head?_toDigits_eq_zero_iff.1 hhead, Nat.toDigits_zero] at hne
    exact hne rfl

theorem ofChars?_digits (n : Nat) :
    ofChars? (Nat.toDigits 10 n) = some ⟨false, Nat.toDigits 10 n, [], none⟩ := by
  rw [ofChars?.eq_def]
  split
  next negative body heq =>
    obtain ⟨rfl, rfl⟩ : negative = false ∧ body = Nat.toDigits 10 n := by
      split at heq
      · next cs hcs => exact absurd hcs (toDigits_ne_minus_cons n cs)
      · cases heq
        exact ⟨rfl, rfl⟩
    simp only [span_isDigit_toDigits, if_neg (whole_toDigits n), exponentOf?, Option.map_some]

theorem ofChars?_minus_digits (n : Nat) :
    ofChars? ('-' :: Nat.toDigits 10 n) = some ⟨true, Nat.toDigits 10 n, [], none⟩ := by
  simp only [ofChars?, span_isDigit_toDigits, if_neg (whole_toDigits n), exponentOf?, Option.map_some]

theorem toInt?_digits (n : Nat) : (Numeral.mk false (Nat.toDigits 10 n) [] none).toInt? = some (n : Int) := by
  simp [toInt?, digitsValue_toDigits]

theorem toInt?_minus_digits (n : Nat) :
    (Numeral.mk true (Nat.toDigits 10 (n + 1)) [] none).toInt? = some (Int.negSucc n) := by
  have hne : ((n + 1 : Nat) : Int) ≠ 0 := by omega
  simp only [toInt?, digitsValue_toDigits, and_self, if_true, if_neg hne]
  rfl

end Numeral

namespace Json

theorem ofLiteral?_of_toInt? {literal : List Char} {m : Numeral} {n : Int} (hliteral : Numeral.ofChars? literal = some m)
    (hvalue : m.toInt? = some n) : ofLiteral? literal = some (if m.overflows then .unreadable else .int n) := by
  rw [ofLiteral?, hliteral]
  show (if m.overflows = true then _ else _) = _
  rw [hvalue]
  split <;> rfl

theorem toList_toString_ofNat (m : Nat) : (toString (Int.ofNat m)).toList = Nat.toDigits 10 m := Nat.toList_repr

theorem toList_toString_negSucc (m : Nat) : (toString (Int.negSucc m)).toList = '-' :: Nat.toDigits 10 (m + 1) := by
  show ("-" ++ (m + 1).repr).toList = _
  rw [String.toList_append, Nat.toList_repr]
  rfl

theorem isNumberChar_of_mem_toString {n : Int} {c : Char} (h : c ∈ (toString n).toList) : isNumberChar c = true := by
  have hdigits (m : Nat) (hc : c ∈ Nat.toDigits 10 m) : isNumberChar c = true := by
    simp [isNumberChar, Numeral.isDigit_of_mem_toDigits hc]
  cases n with
  | ofNat m =>
      rw [toList_toString_ofNat] at h
      exact hdigits m h
  | negSucc m =>
      rw [toList_toString_negSucc] at h
      rcases List.mem_cons.1 h with rfl | h
      · decide
      · exact hdigits (m + 1) h

theorem toList_toString_ne_nil (n : Int) : (toString n).toList ≠ [] := by
  cases n with
  | ofNat m =>
      rw [toList_toString_ofNat]
      exact Nat.toDigits_ne_nil
  | negSucc m =>
      rw [toList_toString_negSucc]
      exact List.cons_ne_nil _ _

/-- What the decimal text of an integer is read as. -/
theorem ofLiteral?_toString_eq (n : Int) :
    ∃ large : Bool, ofLiteral? (toString n).toList = some (if large then .unreadable else .int n) ∧
      (n.natAbs < UInt64.size → large = false) := by
  cases n with
  | ofNat m =>
      rw [toList_toString_ofNat]
      exact ⟨_, ofLiteral?_of_toInt? (Numeral.ofChars?_digits m) (Numeral.toInt?_digits m),
        Numeral.not_overflows_of_lt⟩
  | negSucc m =>
      rw [toList_toString_negSucc]
      exact ⟨_, ofLiteral?_of_toInt? (Numeral.ofChars?_minus_digits (m + 1)) (Numeral.toInt?_minus_digits m),
        Numeral.not_overflows_of_lt⟩

end Json

end DefectTrail
