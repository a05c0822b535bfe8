import DefectTrail.Text.Utf8
import Mathlib

/-!
# ASCII characters in texts of any bytes

The bytes of a text and the text of bytes come apart at the same ASCII characters, as no other character has such a
byte, and no other bytes are shown as one.

* `Text.Begun.IsWide` : what is begun is no ASCII character;
* `Text.exists_of_decodeFrom_eq_append` : where an ASCII character stands in the text of bytes, its byte stands in the
  bytes;
* `Text.splitOn_utf8_decode` : bytes may be taken apart at slashes before or after they are read as a text;
* `Text.decode_eq_iff` : only its own bytes are read as an ASCII text.
-/

namespace DefectTrail.Text

/-! ## Bytes of texts -/

/-- Only a slash has the byte of a slash. -/
theorem slash_mem_utf8EncodeChar_iff {c : Char} : (47 : UInt8) ∈ String.utf8EncodeChar c ↔ c = '/' := by
  have hslash : c = '/' ↔ c.val.toNat = 47 := by
    rw [← Char.toNat_inj]
    exact Iff.rfl
  rw [hslash]
  unfold String.utf8EncodeChar
  generalize c.val.toNat = v
  simp only
  -- the first byte of a longer code is too great for a slash, and so are the others
  split_ifs <;>
    simp only [List.mem_cons, List.not_mem_nil, or_false, ← UInt8.toNat_inj, UInt8.toNat_ofNat, UInt8.toNat_ofNat'] <;>
    omega

theorem utf8_cons (c : Char) (cs : List Char) : utf8 (c :: cs) = String.utf8EncodeChar c ++ utf8 cs := rfl

theorem slash_mem_utf8_iff {cs : List Char} : (47 : UInt8) ∈ utf8 cs ↔ '/' ∈ cs := by
  rw [utf8, List.mem_flatMap]
  simp only [slash_mem_utf8EncodeChar_iff, exists_eq_right]

theorem utf8_append_slash (a b : List Char) : utf8 (a ++ '/' :: b) = utf8 a ++ 47 :: utf8 b := by
  have hslash : String.utf8EncodeChar '/' = [47] := by decide
  rw [utf8, List.flatMap_append, List.flatMap_cons, hslash]
  rfl

/-! ## Characters that are begun -/

/-- The character is no ASCII character, whatever bytes complete it. -/
def Begun.IsWide (b : Begun) : Prop :=
  2 ≤ b.bits ∨ b.more ≠ 0 ∧ (1 ≤ b.bits ∨ 130 ≤ b.low) ∧ b.high < 192

theorem Begun.isWide_ofFirst {n : Nat} (hlow : 194 ≤ n) (hhigh : n ≤ 244) : (ofFirst n).IsWide := by
  unfold IsWide ofFirst
  simp only
  split_ifs <;> omega

variable {byte : UInt8}

theorem toNat_ofNat_ascii (hascii : byte.toNat < 128) : (Char.ofNat byte.toNat).toNat = byte.toNat := by
  have hvalid : byte.toNat.isValidChar := Or.inl (by omega)
  rw [Char.toNat_ofNat, if_pos hvalid]

/-- The code of an ASCII character other than the first is that of no other character. -/
theorem eq_of_ofNat_eq (hpos : 0 < byte.toNat) (hascii : byte.toNat < 128) {code : Nat}
    (h : Char.ofNat byte.toNat = Char.ofNat code) : code = byte.toNat := by
  have hcode := congrArg Char.toNat h
  rw [toNat_ofNat_ascii hascii, Char.toNat_ofNat] at hcode
  split at hcode <;> omega

theorem ne_replacement (hascii : byte.toNat < 128) : Char.ofNat byte.toNat ≠ replacement := by
  intro h
  have hcode := congrArg Char.toNat h
  rw [toNat_ofNat_ascii hascii] at hcode
  have hreplacement : replacement.toNat = 65533 := by decide
  omega

theorem isWide_of_none : ∀ b ∈ (none : Option Begun), b.IsWide := fun b hb => absurd hb (Option.not_mem_none b)

theorem isWide_of_firstByte (x : UInt8) : ∀ b ∈ (firstByte x).2, b.IsWide := by
  unfold firstByte
  split_ifs with hsmall hlarge
  · exact isWide_of_none
  · rintro b hb
    obtain rfl := Option.some.inj hb
    exact Begun.isWide_ofFirst hlarge.1 hlarge.2
  · exact isWide_of_none

theorem eq_of_mem_firstByte (hpos : 0 < byte.toNat) (hascii : byte.toNat < 128) {x : UInt8}
    (h : Char.ofNat byte.toNat ∈ (firstByte x).1) : x = byte := by
  unfold firstByte at h
  split_ifs at h with hsmall hlarge
  · exact UInt8.toNat_inj.1 (eq_of_ofNat_eq hpos hascii (List.mem_singleton.1 h))
  · cases h
  · exact absurd (List.mem_singleton.1 h) (ne_replacement hascii)

/-- What is begun stays wide. -/
theorem isWide_of_nextByte {begun : Option Begun} (hwide : ∀ b ∈ begun, b.IsWide) (x : UInt8) :
    ∀ b ∈ (nextByte begun x).2, b.IsWide := by
  unfold nextByte
  cases begun with
  | none => exact isWide_of_firstByte x
  | some b =>
    have hb := hwide b rfl
    unfold Begun.IsWide at hb
    simp only
    split_ifs with hnext
    · split
      · exact isWide_of_none
      · rintro b' hb'
        obtain rfl := Option.some.inj hb'
        unfold Begun.IsWide
        simp only
        omega
    · exact isWide_of_firstByte x

/-- An ASCII character comes of its own byte. -/
theorem eq_of_mem_nextByte (hpos : 0 < byte.toNat) (hascii : byte.toNat < 128) {begun : Option Begun}
    (hwide : ∀ b ∈ begun, b.IsWide) {x : UInt8} (h : Char.ofNat byte.toNat ∈ (nextByte begun x).1) : x = byte := by
  unfold nextByte at h
  cases begun with
  | none => exact eq_of_mem_firstByte hpos hascii h
  | some b =>
    have hb := hwide b rfl
    unfold Begun.IsWide at hb
    simp only at h
    split_ifs at h with hnext
    · split at h
      · -- the code of what is completed is too great
        have hcode := eq_of_ofNat_eq hpos hascii (List.mem_singleton.1 h)
        omega
      · cases h
    · rcases List.mem_cons.1 h with h | h
      · exact absurd h (ne_replacement hascii)
      · exact eq_of_mem_firstByte hpos hascii h

/-- Where an ASCII character stands in the text of bytes, its byte stands in the bytes. -/
theorem exists_of_decodeFrom_eq_append (hpos : 0 < byte.toNat) (hascii : byte.toNat < 128) {begun : Option Begun}
    (hwide : ∀ b ∈ begun, b.IsWide) {bytes : List UInt8} {before after : List Char}
    (h : decodeFrom begun bytes = before ++ Char.ofNat byte.toNat :: after) :
    ∃ u v, bytes = u ++ byte :: v ∧ decodeFrom begun u = before ∧ decode v = after := by
  have hunfinished (begun : Option Begun) : Char.ofNat byte.toNat ∉ decodeFrom begun [] := by
    cases begun with
    | none => exact List.not_mem_nil
    | some b => exact fun hmem => ne_replacement hascii (List.mem_singleton.1 hmem)
  induction bytes generalizing begun before with
  | nil => exact absurd (h ▸ List.mem_append_right before List.mem_cons_self) (hunfinished begun)
  | cons x bytes ih =>
    rw [decodeFrom] at h
    obtain ⟨between, hfirst, hrest⟩ | ⟨between, hbefore, hrest⟩ := List.append_eq_append_iff.1 h
    · -- what comes before the character goes on behind the first byte
      obtain ⟨u, v, rfl, hu, hv⟩ := ih (isWide_of_nextByte hwide x) hrest
      exact ⟨x :: u, v, rfl, by rw [decodeFrom, hu, hfirst], hv⟩
    · cases between with
      | nil =>
        rw [List.append_nil] at hbefore
        have hnone : decodeFrom (nextByte begun x).2 bytes = [] ++ Char.ofNat byte.toNat :: after := hrest.symm
        obtain ⟨u, v, rfl, hu, hv⟩ := ih (isWide_of_nextByte hwide x) hnone
        exact ⟨x :: u, v, rfl, by rw [decodeFrom, hu, List.append_nil, hbefore], hv⟩
      | cons c between =>
        -- the first byte gives the character, so that it is its byte
        obtain ⟨rfl, rfl⟩ := List.cons.inj hrest
        have hmem : Char.ofNat byte.toNat ∈ (nextByte begun x).1 := by
          rw [hbefore]
          exact List.mem_append_right before List.mem_cons_self
        obtain rfl := eq_of_mem_nextByte hpos hascii hwide hmem
        rw [nextByte_ascii hascii] at hbefore
        obtain ⟨hfirst, -, hlast⟩ :=
          (List.append_cons_inj_of_notMem (hunfinished begun) List.not_mem_nil).1 hbefore
        refine ⟨[], bytes, rfl, hfirst, ?_⟩
        rw [nextByte_ascii hascii, ← hlast]
        rfl

/-! ## Taking apart -/

theorem decode_append_slash (a b : List UInt8) : decode (a ++ 47 :: b) = decode a ++ '/' :: decode b :=
  decodeFrom_append_ascii (by decide) none a b

theorem slash_mem_of_mem_decode {bytes : List UInt8} (h : '/' ∈ decode bytes) : (47 : UInt8) ∈ bytes := by
  obtain ⟨before, after, hsplit⟩ := List.append_of_mem h
  obtain ⟨u, v, rfl, -⟩ := @exists_of_decodeFrom_eq_append 47 (by decide) (by decide) none isWide_of_none _ _ _ hsplit
  exact List.mem_append_right u List.mem_cons_self

/-- Bytes may be taken apart at slashes before or after they are read as a text. -/
theorem splitOn_utf8_decode (bytes : List UInt8) :
    (utf8 (decode bytes)).splitOn 47 = (bytes.splitOn 47).map fun piece => utf8 (decode piece) := by
  by_cases h : (47 : UInt8) ∈ bytes
  · obtain ⟨a, b, hsplit⟩ := List.append_of_mem h
    have hlength : bytes.length = a.length + (b.length + 1) := by rw [hsplit, List.length_append, List.length_cons]
    rw [hsplit, decode_append_slash, utf8_append_slash, List.splitOn_append_cons_self, List.splitOn_append_cons_self,
      List.map_append, splitOn_utf8_decode a, splitOn_utf8_decode b]
  · have htext : (47 : UInt8) ∉ utf8 (decode bytes) := mt slash_mem_utf8_iff.1 (mt slash_mem_of_mem_decode h)
    rw [List.splitOn_eq_singleton h, List.splitOn_eq_singleton htext, List.map_singleton]
termination_by bytes.length

/-! ## ASCII texts -/

theorem decodeFrom_some_ne_nil (b : Begun) (bytes : List UInt8) : decodeFrom (some b) bytes ≠ [] := by
  induction bytes generalizing b with
  | nil => exact List.cons_ne_nil _ _
  | cons x bytes ih =>
    rw [decodeFrom, nextByte]
    simp only
    split
    · split
      · exact List.cons_ne_nil _ _
      · exact ih _
    · exact List.cons_ne_nil _ _

theorem eq_nil_of_decode_eq_nil {bytes : List UInt8} (h : decode bytes = []) : bytes = [] := by
  cases bytes with
  | nil => rfl
  | cons x bytes =>
    rw [decode, decodeFrom, nextByte, firstByte] at h
    split_ifs at h
    · cases h
    · exact absurd h (decodeFrom_some_ne_nil _ bytes)
    · cases h

theorem exists_byte_of_ascii {c : Char} (hascii : c.toNat < 128) :
    ∃ byte : UInt8, byte.toNat = c.toNat ∧ Char.ofNat byte.toNat = c ∧ String.utf8EncodeChar c = [byte] := by
  have hencode : ∀ n < 128, String.utf8EncodeChar (Char.ofNat n) = [UInt8.ofNat n] := by decide
  have hbyte : (UInt8.ofNat c.toNat).toNat = c.toNat := UInt8.toNat_ofNat_of_lt' (by rw [UInt8.size]; omega)
  refine ⟨UInt8.ofNat c.toNat, hbyte, ?_, ?_⟩
  · rw [hbyte, Char.ofNat_toNat]
  · rw [← hencode c.toNat hascii, Char.ofNat_toNat]

/-- Only its own bytes are read as an ASCII text. -/
theorem decode_eq_iff {bytes : List UInt8} {cs : List Char} (h : ∀ c ∈ cs, 0 < c.toNat ∧ c.toNat < 128) :
    decode bytes = cs ↔ bytes = utf8 cs := by
  refine ⟨fun hdecode => ?_, fun hbytes => hbytes ▸ decode_utf8 cs⟩
  induction cs generalizing bytes with
  | nil => exact eq_nil_of_decode_eq_nil hdecode
  | cons c cs ih =>
    obtain ⟨⟨hpos, hascii⟩, hcs⟩ := List.forall_mem_cons.1 h
    obtain ⟨byte, hbyte, rfl, hencode⟩ := exists_byte_of_ascii hascii
    rw [← hbyte] at hpos hascii
    obtain ⟨u, v, rfl, hu, hv⟩ :=
      exists_of_decodeFrom_eq_append hpos hascii isWide_of_none (hdecode.trans (List.nil_append _).symm)
    rw [eq_nil_of_decode_eq_nil hu, List.nil_append, utf8_cons, hencode, ih hcs hv]
    rfl

end DefectTrail.Text
