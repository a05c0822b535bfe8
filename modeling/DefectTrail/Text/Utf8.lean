/-!
# Texts as bytes

`Text.utf8` gives the bytes of a text. `Text.decode` reads any bytes as a text: where no character can be read, the
longest run of bytes that could still begin one is replaced by a sign of its own, and so is a byte that begins none.

* `Text.decode_utf8_append` : the bytes of a text are read back, whatever comes after them;
* `Text.decodeFrom_append_ascii` : an ASCII byte ends what was begun before it.
-/

namespace DefectTrail.Text

/-- The bytes of a text. -/
def utf8 (s : List Char) : List UInt8 := s.flatMap String.utf8EncodeChar

/-- Stands for bytes that are no text. -/
def replacement : Char := '\uFFFD'

/-! ## Decoding -/

/-- A character of which the first bytes have been read. -/
structure Begun where
  /-- The bits of its code that have been read. -/
  bits : Nat
  /-- The number of bytes that come after the next one. -/
  more : Nat
  /-- The least value of the next byte, which is no ASCII character. -/
  low : Nat
  /-- The greatest value of the next byte. -/
  high : Nat
  low_ge : 128 ≤ low

/-- The character that a first byte of 194 or more begins. The bounds on the second byte leave out codes that have a
shorter form and codes that are no characters. -/
def Begun.ofFirst (byte : Nat) : Begun where
  bits := if byte < 224 then byte - 192 else if byte < 240 then byte - 224 else byte - 240
  more := if byte < 224 then 0 else if byte < 240 then 1 else 2
  low := if byte = 224 then 160 else if byte = 240 then 144 else 128
  high := if byte = 237 then 159 else if byte = 244 then 143 else 191
  low_ge := by split <;> (try split) <;> decide

/-- What a byte gives that comes first: a character, or one that is begun, or the sign for a byte that begins none. -/
def firstByte (byte : UInt8) : List Char × Option Begun :=
  if byte.toNat < 128 then ([Char.ofNat byte.toNat], none)
  else if 194 ≤ byte.toNat ∧ byte.toNat ≤ 244 then ([], some (.ofFirst byte.toNat))
  else ([replacement], none)

/-- What one more byte gives. A character that it does not go on with is replaced, and the byte comes first again. -/
def nextByte (begun : Option Begun) (byte : UInt8) : List Char × Option Begun :=
  match begun with
  | none => firstByte byte
  | some b =>
    if b.low ≤ byte.toNat ∧ byte.toNat ≤ b.high then
      let bits := 64 * b.bits + byte.toNat % 64
      match b.more with
      | 0 => ([Char.ofNat bits], none)
      | more + 1 => ([], some ⟨bits, more, 128, 191, Nat.le_refl 128⟩)
    else (replacement :: (firstByte byte).1, (firstByte byte).2)

/-- The characters of the bytes that follow on a character that is begun. -/
def decodeFrom (begun : Option Begun) : List UInt8 → List Char
  | [] => begun.toList.map fun _ => replacement
  | byte :: bytes => (nextByte begun byte).1 ++ decodeFrom (nextByte begun byte).2 bytes

/-- The text of any bytes. -/
def decode (bytes : List UInt8) : List Char := decodeFrom none bytes

/-! ## What is read back -/

theorem toNat_ofNat_of_lt {n : Nat} (h : n < 256) : (UInt8.ofNat n).toNat = n := UInt8.toNat_ofNat_of_lt' h

section
variable {b : Begun} {n : Nat}

theorem decodeFrom_none_ofNat (hlow : 194 ≤ n) (hhigh : n ≤ 244) (bytes : List UInt8) :
    decodeFrom none (UInt8.ofNat n :: bytes) = decodeFrom (some (.ofFirst n)) bytes := by
  have hbyte : (UInt8.ofNat n).toNat = n := toNat_ofNat_of_lt (by omega)
  have hfirst : firstByte (UInt8.ofNat n) = ([], some (.ofFirst n)) := by
    rw [firstByte, hbyte, if_neg (by omega), if_pos ⟨hlow, hhigh⟩]
  simp only [decodeFrom, nextByte, hfirst, List.nil_append]

/-- The last byte of a character that is begun completes it. -/
theorem decodeFrom_ofNat_of_more_eq_zero (hmore : b.more = 0) (hn : n < 64) (hlow : b.low ≤ n + 128)
    (hhigh : n + 128 ≤ b.high) (bytes : List UInt8) :
    decodeFrom (some b) (UInt8.ofNat (n + 128) :: bytes) = Char.ofNat (64 * b.bits + n) :: decodeFrom none bytes := by
  have hbyte : (UInt8.ofNat (n + 128)).toNat = n + 128 := toNat_ofNat_of_lt (by omega)
  have hbits : (n + 128) % 64 = n := by omega
  have hnext : nextByte (some b) (UInt8.ofNat (n + 128)) = ([Char.ofNat (64 * b.bits + n)], none) := by
    simp only [nextByte, hbyte, hmore, hbits, if_pos (And.intro hlow hhigh)]
  rw [decodeFrom, hnext]
  rfl

/-- The bytes before the last one add their bits. -/
theorem decodeFrom_ofNat_of_more_eq_succ {k : Nat} (hmore : b.more = k + 1) (hn : n < 64)
    (hlow : b.low ≤ n + 128) (hhigh : n + 128 ≤ b.high) (bytes : List UInt8) :
    decodeFrom (some b) (UInt8.ofNat (n + 128) :: bytes) =
      decodeFrom (some ⟨64 * b.bits + n, k, 128, 191, Nat.le_refl 128⟩) bytes := by
  have hbyte : (UInt8.ofNat (n + 128)).toNat = n + 128 := toNat_ofNat_of_lt (by omega)
  have hbits : (n + 128) % 64 = n := by omega
  have hnext : nextByte (some b) (UInt8.ofNat (n + 128)) =
      ([], some ⟨64 * b.bits + n, k, 128, 191, Nat.le_refl 128⟩) := by
    simp only [nextByte, hbyte, hmore, hbits, if_pos (And.intro hlow hhigh)]
  rw [decodeFrom, hnext]
  rfl

end

/-- A character is read back, whatever comes after it. -/
theorem decode_utf8EncodeChar_append (c : Char) (bytes : List UInt8) :
    decode (String.utf8EncodeChar c ++ bytes) = c :: decode bytes := by
  have hchar {code : Nat} (h : code = c.val.toNat) : Char.ofNat code = c := by
    rw [h]
    exact Char.ofNat_toNat c
  have hvalid : c.val.toNat < 55296 ∨ 57343 < c.val.toNat ∧ c.val.toNat < 1114112 := c.valid
  unfold String.utf8EncodeChar decode
  generalize c.val.toNat = v at hchar hvalid
  simp only
  split
  · next h =>
    have hbyte : (UInt8.ofNat v).toNat = v := toNat_ofNat_of_lt (by omega)
    have hfirst : firstByte (UInt8.ofNat v) = ([Char.ofNat v], none) := by
      rw [firstByte, hbyte, if_pos (by omega)]
    simp only [List.singleton_append, decodeFrom, nextByte, hfirst, hchar]
  split
  · rw [List.cons_append, List.singleton_append, decodeFrom_none_ofNat (by omega) (by omega),
      decodeFrom_ofNat_of_more_eq_zero, hchar]
    all_goals grind [Begun.ofFirst]
  split
  · rw [List.cons_append, List.cons_append, List.singleton_append, decodeFrom_none_ofNat (by omega) (by omega),
      decodeFrom_ofNat_of_more_eq_succ (k := 0), decodeFrom_ofNat_of_more_eq_zero rfl, hchar]
    all_goals grind [Begun.ofFirst]
  · rw [List.cons_append, List.cons_append, List.cons_append, List.singleton_append,
      decodeFrom_none_ofNat (by omega) (by omega), decodeFrom_ofNat_of_more_eq_succ (k := 1),
      decodeFrom_ofNat_of_more_eq_succ rfl, decodeFrom_ofNat_of_more_eq_zero rfl, hchar]
    all_goals grind [Begun.ofFirst]

theorem decode_utf8_append (s : List Char) (bytes : List UInt8) : decode (utf8 s ++ bytes) = s ++ decode bytes := by
  induction s with
  | nil => rfl
  | cons c s ih =>
    rw [utf8, List.flatMap_cons, List.append_assoc, decode_utf8EncodeChar_append]
    exact congrArg (c :: ·) ih

theorem decode_utf8 (s : List Char) : decode (utf8 s) = s := by
  have h := decode_utf8_append s []
  rw [List.append_nil] at h
  exact h.trans (List.append_nil s)

section
variable {byte : UInt8}

/-- An ASCII byte is a character of its own and ends what is begun before it. -/
theorem nextByte_ascii (h : byte.toNat < 128) (begun : Option Begun) :
    nextByte begun byte = (decodeFrom begun [] ++ [Char.ofNat byte.toNat], none) := by
  have hfirst : firstByte byte = ([Char.ofNat byte.toNat], none) := if_pos h
  cases begun with
  | none => exact hfirst
  | some b =>
    have hlow : ¬ (b.low ≤ byte.toNat ∧ byte.toNat ≤ b.high) := by
      have := b.low_ge
      omega
    simp only [nextByte, if_neg hlow, hfirst]
    rfl

theorem decodeFrom_append_ascii (h : byte.toNat < 128) (begun : Option Begun) (a b : List UInt8) :
    decodeFrom begun (a ++ byte :: b) = decodeFrom begun a ++ Char.ofNat byte.toNat :: decode b := by
  induction a generalizing begun with
  | nil =>
    show (nextByte begun byte).1 ++ decodeFrom (nextByte begun byte).2 b = _
    rw [nextByte_ascii h, List.append_assoc]
    rfl
  | cons x a ih => rw [List.cons_append, decodeFrom, ih, decodeFrom, List.append_assoc]

end

end DefectTrail.Text
