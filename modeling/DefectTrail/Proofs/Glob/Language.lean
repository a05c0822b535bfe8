import DefectTrail.Glob.Match
import Mathlib.Computability.Language

/-!
# What globs take

Each token stands for a language of byte strings, and a pattern for the product of those of its tokens. Following all
possibilities at once finds out whether a path is in it.

* `Glob.Token.language`, `Glob.tokensLanguage` : what tokens stand for;
* `Glob.Marks.Shows` : a place is marked if the bytes before it are in a language; `Glob.Token.shows_move`,
  `Glob.shows_tokensMove` : tokens move the marks from a language to its product with their own;
* `Glob.takes_iff` : a pattern takes the paths of its language.
-/

namespace DefectTrail.Glob

/-! ## Languages of tokens -/

/-- The strings of one byte that has the given property. -/
def oneByte (p : UInt8 → Prop) : Language UInt8 := {w | ∃ b, w = [b] ∧ p b}

/-- The slash alone. -/
def slash : Language UInt8 := oneByte (· = 47)

mutual

/-- The byte strings that a token stands for. -/
def Token.language : Token → Language UInt8
  | .literal c => {String.utf8EncodeChar c}
  | .anyByte => oneByte fun _ => True
  | .anyBytes => ⊤
  | .leadingDirs => 1 + ⊤ * slash
  | .innerDirs => slash + slash * ⊤ * slash
  | .trailingPath => slash * ⊤
  | .byteClass negated ranges =>
    oneByte fun b => (∃ range ∈ ranges.flatMap byteRanges, range.1 ≤ b ∧ b ≤ range.2) ↔ negated = false
  | .alternatives branches => if branches.isEmpty then 1 else branchesLanguage branches

/-- The byte strings that tokens stand for one after the other. -/
def tokensLanguage : List Token → Language UInt8
  | [] => 1
  | t :: ts => t.language * tokensLanguage ts

/-- The byte strings that one of the alternatives stands for. -/
def branchesLanguage : List (List Token) → Language UInt8
  | [] => 0
  | b :: bs => tokensLanguage b + branchesLanguage bs

end

/-! ## Marks -/

namespace Marks

/-- A place is marked if the bytes before it are in the language, and only then. -/
structure Shows (marks : Marks) (bytes : List UInt8) (L : Language UInt8) : Prop where
  length_eq : marks.length = bytes.length + 1
  mark_iff : ∀ {i mark}, marks[i]? = some mark → (mark = true ↔ bytes.take i ∈ L)

variable {marks marks' : Marks} {bytes : List UInt8} {L M : Language UInt8}

theorem shows_start (bytes : List UInt8) : (start bytes).Shows bytes 1 := by
  refine ⟨by rw [start, List.length_cons, List.length_map], fun {i mark} h => ?_⟩
  rw [Language.mem_one, List.take_eq_nil_iff]
  cases i with
  | zero =>
      obtain rfl := Option.some.inj h
      exact iff_of_true rfl (Or.inl rfl)
  | succ i =>
      rw [start, List.getElem?_cons_succ, List.getElem?_map] at h
      obtain ⟨b, hb, rfl⟩ := Option.map_eq_some_iff.1 h
      refine iff_of_false Bool.false_ne_true ?_
      rintro (hzero | hnil)
      · exact Nat.succ_ne_zero i hzero
      · rw [hnil] at hb
        cases hb

theorem Shows.afterByte (h : marks.Shows bytes L) {holds : UInt8 → Bool} {p : UInt8 → Prop}
    (hp : ∀ b, holds b = true ↔ p b) : (marks.afterByte holds bytes).Shows bytes (L * oneByte p) := by
  refine ⟨by simp [Marks.afterByte, h.length_eq], fun {i mark} hmark => ?_⟩
  rw [Language.mem_mul]
  cases i with
  | zero =>
      obtain rfl := Option.some.inj hmark
      refine iff_of_false Bool.false_ne_true ?_
      rintro ⟨u, -, v, ⟨b, rfl, -⟩, hnil⟩
      exact List.append_ne_nil_of_right_ne_nil u (List.cons_ne_nil b []) hnil
  | succ i =>
      rw [Marks.afterByte, List.getElem?_cons_succ, List.getElem?_zipWith_eq_some] at hmark
      obtain ⟨b, before, hb, hbefore, rfl⟩ := hmark
      rw [Bool.and_eq_true, h.mark_iff hbefore, hp, List.take_add_one, hb, Option.toList_some]
      constructor
      · rintro ⟨hL, hb⟩
        exact ⟨_, hL, [b], ⟨b, rfl, hb⟩, rfl⟩
      · rintro ⟨u, hu, v, ⟨b', rfl, hb'⟩, happend⟩
        obtain ⟨rfl, hsame⟩ := List.append_inj' happend rfl
        obtain rfl := List.singleton_inj.1 hsame
        exact ⟨hu, hb'⟩

/-- The places from the first mark on. -/
theorem getElem?_onwards (marks : Marks) (seen : Bool) (i : Nat) :
    (marks.onwards seen)[i]? = marks[i]?.map fun _ => seen || (marks.take (i + 1)).any id := by
  induction marks generalizing seen i with
  | nil => rfl
  | cons mark marks ih =>
      cases i with
      | zero => simp [onwards]
      | succ i => simp [onwards, ih, Bool.or_assoc]

theorem length_onwards (marks : Marks) (seen : Bool) : (marks.onwards seen).length = marks.length := by
  induction marks generalizing seen with
  | nil => rfl
  | cons mark marks ih => rw [onwards, List.length_cons, ih, List.length_cons]

theorem Shows.afterBytes (h : marks.Shows bytes L) : marks.afterBytes.Shows bytes (L * ⊤) := by
  refine ⟨by rw [Marks.afterBytes, length_onwards, h.length_eq], fun {i mark} hmark => ?_⟩
  rw [Marks.afterBytes, getElem?_onwards] at hmark
  obtain ⟨last, hlast, rfl⟩ := Option.map_eq_some_iff.1 hmark
  rw [Bool.false_or, List.any_eq_true, Language.mem_mul]
  constructor
  · rintro ⟨before, hmem, hbefore⟩
    obtain ⟨j, hj⟩ := List.mem_iff_getElem?.1 hmem
    have hle : j < i + 1 := (List.getElem?_eq_some_iff.1 hj).1.trans_le (List.length_take_le _ _)
    rw [List.getElem?_take_of_lt hle] at hj
    have htake : (bytes.take i).take j = bytes.take j := by
      rw [List.take_take, Nat.min_eq_left (Nat.le_of_lt_succ hle)]
    exact ⟨bytes.take j, (h.mark_iff hj).1 hbefore, (bytes.take i).drop j, trivial, htake ▸ List.take_append_drop ..⟩
  · rintro ⟨u, hu, v, -, happend⟩
    have hlength : u.length ≤ i := by
      have hsum := congrArg List.length happend
      rw [List.length_append, List.length_take] at hsum
      omega
    have htaken : bytes.take u.length = u := by
      rw [← Nat.min_eq_left hlength, ← List.take_take, ← happend, List.take_left]
    have hlt : u.length < marks.length := Nat.lt_of_le_of_lt hlength (List.getElem?_eq_some_iff.1 hlast).1
    have hbefore : marks[u.length]? = some marks[u.length] := List.getElem?_eq_getElem hlt
    refine ⟨marks[u.length], List.mem_of_getElem? (i := u.length) ?_, (h.mark_iff hbefore).2 (by rwa [htaken])⟩
    rwa [List.getElem?_take_of_lt (Nat.lt_succ_of_le hlength)]

theorem Shows.union (h : marks.Shows bytes L) (h' : marks'.Shows bytes M) :
    (marks.union marks').Shows bytes (L + M) := by
  refine ⟨by rw [Marks.union, List.length_zipWith, h.length_eq, h'.length_eq, Nat.min_self], fun {i mark} hmark => ?_⟩
  rw [Marks.union, List.getElem?_zipWith_eq_some] at hmark
  obtain ⟨x, y, hx, hy, rfl⟩ := hmark
  rw [Bool.or_eq_true, h.mark_iff hx, h'.mark_iff hy, Language.mem_add]

theorem Shows.none (h : marks.Shows bytes L) : marks.none.Shows bytes 0 := by
  refine ⟨by rw [Marks.none, List.length_map, h.length_eq], fun {i mark} hmark => ?_⟩
  rw [Marks.none, List.getElem?_map] at hmark
  obtain ⟨x, -, rfl⟩ := Option.map_eq_some_iff.1 hmark
  exact iff_of_false Bool.false_ne_true (Language.notMem_zero _)

theorem Shows.afterSlash (h : marks.Shows bytes L) : (marks.afterByte isSlash bytes).Shows bytes (L * slash) :=
  h.afterByte fun _ => beq_iff_eq

/-- Bytes that are read one by one are read as a whole. -/
theorem Shows.foldl_afterByte (h : marks.Shows bytes L) (word : List UInt8) :
    (word.foldl (fun marks byte => marks.afterByte (fun b => b == byte) bytes) marks).Shows bytes (L * {word}) := by
  induction word generalizing marks L with
  | nil =>
      show marks.Shows bytes (L * 1)
      rwa [mul_one]
  | cons byte word ih =>
      have hcons : oneByte (· = byte) * ({word} : Language UInt8) = {byte :: word} := by
        ext w
        rw [Language.mem_mul]
        constructor
        · rintro ⟨u, ⟨b, rfl, rfl⟩, v, rfl, rfl⟩
          rfl
        · rintro rfl
          exact ⟨[byte], ⟨byte, rfl, rfl⟩, word, rfl, rfl⟩
      rw [List.foldl_cons, ← hcons, ← mul_assoc]
      exact ih (h.afterByte fun _ => beq_iff_eq)

end Marks

/-! ## Patterns -/

variable {bytes : List UInt8}

theorem byteClass_iff (members : List (UInt8 × UInt8)) (negated : Bool) (b : UInt8) :
    (members.any (fun (low, high) => low ≤ b && b ≤ high) != negated) = true ↔
      ((∃ range ∈ members, range.1 ≤ b ∧ b ≤ range.2) ↔ negated = false) := by
  have hany : members.any (fun (low, high) => low ≤ b && b ≤ high) = true ↔
      ∃ range ∈ members, range.1 ≤ b ∧ b ≤ range.2 := by
    simp
  rw [← hany]
  cases negated <;> simp

mutual

/-- A token moves the marks on by its own language. -/
theorem Token.shows_move (t : Token) {marks : Marks} {L : Language UInt8} (h : marks.Shows bytes L) :
    (t.move bytes marks).Shows bytes (L * t.language) := by
  cases t with
  | literal c =>
      rw [Token.move, Token.language]
      exact h.foldl_afterByte _
  | anyByte =>
      rw [Token.move, Token.language]
      exact h.afterByte fun _ => iff_of_true rfl trivial
  | anyBytes =>
      rw [Token.move, Token.language]
      exact h.afterBytes
  | leadingDirs =>
      rw [Token.move, Token.language, mul_add, mul_one, ← mul_assoc]
      exact h.union h.afterBytes.afterSlash
  | innerDirs =>
      rw [Token.move, Token.language, mul_add, ← mul_assoc, ← mul_assoc]
      exact h.afterSlash.union h.afterSlash.afterBytes.afterSlash
  | trailingPath =>
      rw [Token.move, Token.language, ← mul_assoc]
      exact h.afterSlash.afterBytes
  | byteClass negated ranges =>
      rw [Token.move, Token.language]
      exact h.afterByte (byteClass_iff _ negated)
  | alternatives branches =>
      rw [Token.move, Token.language]
      split
      · rwa [mul_one]
      · exact shows_branchesMove branches h

theorem shows_tokensMove (pattern : List Token) {marks : Marks} {L : Language UInt8} (h : marks.Shows bytes L) :
    (tokensMove bytes pattern marks).Shows bytes (L * tokensLanguage pattern) := by
  cases pattern with
  | nil =>
      rw [tokensMove, tokensLanguage, mul_one]
      exact h
  | cons t ts =>
      rw [tokensMove, tokensLanguage, ← mul_assoc]
      exact shows_tokensMove ts (t.shows_move h)

theorem shows_branchesMove (branches : List (List Token)) {marks : Marks} {L : Language UInt8}
    (h : marks.Shows bytes L) : (branchesMove bytes branches marks).Shows bytes (L * branchesLanguage branches) := by
  cases branches with
  | nil =>
      rw [branchesMove, branchesLanguage, mul_zero]
      exact h.none
  | cons b bs =>
      rw [branchesMove, branchesLanguage, mul_add]
      exact (shows_tokensMove b h).union (shows_branchesMove bs h)

end

/-- A pattern takes the paths whose bytes are in its language. -/
theorem takes_iff {pattern : List Token} {path : String} :
    takes pattern path = true ↔ Text.utf8 path.toList ∈ tokensLanguage pattern := by
  have hshows := shows_tokensMove pattern (Marks.shows_start (Text.utf8 path.toList))
  rw [one_mul] at hshows
  have hlast : (Text.utf8 path.toList).length <
      (tokensMove (Text.utf8 path.toList) pattern (Marks.start (Text.utf8 path.toList))).length := by
    rw [hshows.length_eq]
    exact Nat.lt_succ_self _
  have hmark := hshows.mark_iff (List.getElem?_eq_getElem hlast)
  rw [List.take_length] at hmark
  rw [takes, List.getLast?_eq_getElem?, hshows.length_eq, Nat.add_sub_cancel, List.getElem?_eq_getElem hlast, ← hmark]
  simp

end DefectTrail.Glob
