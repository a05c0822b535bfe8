import DefectTrail.Proofs.Json.Numeral
import DefectTrail.Json.Printer
import Mathlib.Tactic.SplitIfs

/-!
# Reading pieces of a text

What the reader makes of the pieces that a written value consists of.

* `Json.stringBody_flatMap_escapeChar` : a string is read back from its escapes;
* `Json.items_texts`, `Json.enclosed_block` : the items between two brackets are read back if each of them is;
* `Json.scalar_quote`, `Json.scalar_int` : strings and integers;
* `Json.value_array`, `Json.value_object` : from the inside of an array or object to the whole.
-/

namespace DefectTrail.Json

/-! ## Strings -/

theorem hexDigit?_hexDigit {d : Nat} (h : d < 16) : hexDigit? (hexDigit d) = some d := by
  have hall : ∀ d < 16, hexDigit? (hexDigit d) = some d := by decide
  exact hall d h

theorem codeUnit?_hexDigit {n : Nat} (h : n < 0x20) :
    codeUnit? '0' '0' (hexDigit (n / 16)) (hexDigit (n % 16)) = some n := by
  have hzero : hexDigit? '0' = some 0 := by decide
  simp only [codeUnit?, hzero, hexDigit?_hexDigit (show n / 16 < 16 by omega),
    hexDigit?_hexDigit (Nat.mod_lt n (show 0 < 16 by decide)), Option.bind_eq_bind, Option.bind_some, Option.pure_def,
    Option.some_inj]
  omega

theorem stringBody_escape {e c : Char} (hu : e ≠ 'u') (h : escape? e = some c) (rest : List Char) :
    stringBody ('\\' :: e :: rest) = (stringBody rest).map fun (s, after) => (s.map (c :: ·), after) := by
  rw [stringBody, h]
  · cases stringBody rest <;> rfl
  · exact fun a b c d rest he _ => hu he

theorem stringBody_control {c : Char} (h : c.toNat < 0x20) (rest : List Char) :
    stringBody ('\\' :: 'u' :: '0' :: '0' :: hexDigit (c.toNat / 16) :: hexDigit (c.toNat % 16) :: rest) =
      (stringBody rest).map fun (s, after) => (s.map (c :: ·), after) := by
  have hleading : isLeadingSurrogate c.toNat = false := by
    simp only [isLeadingSurrogate, Bool.and_eq_false_iff, decide_eq_false_iff_not]
    omega
  have htrailing : isTrailingSurrogate c.toNat = false := by
    simp only [isTrailingSurrogate, Bool.and_eq_false_iff, decide_eq_false_iff_not]
    omega
  rw [stringBody, codeUnit?_hexDigit h]
  simp only [Option.bind_eq_bind, Option.bind_some, hleading, htrailing, Bool.false_eq_true, if_false, Char.ofNat_toNat]
  cases stringBody rest <;> rfl

theorem stringBody_plain {c : Char} (hquote : c ≠ '"') (hslash : c ≠ '\\') (h : ¬ c.toNat < 0x20) (rest : List Char) :
    stringBody (c :: rest) = (stringBody rest).map fun (s, after) => (s.map (c :: ·), after) := by
  rw [stringBody, if_neg (not_or.2 ⟨h, hslash⟩)]
  · cases stringBody rest <;> rfl
  · exact hquote
  · exact fun a b c d rest hc _ => hslash hc
  · exact fun e rest hc _ => hslash hc

/-- A character is read back from the way it is written. -/
theorem stringBody_escapeChar (c : Char) (rest : List Char) :
    stringBody (escapeChar c ++ rest) = (stringBody rest).map fun (s, after) => (s.map (c :: ·), after) := by
  unfold escapeChar
  split_ifs with hquote hslash hb hf hn hr ht hcontrol
  · exact stringBody_escape (by decide) (by rw [hquote]; rfl) rest
  · exact stringBody_escape (by decide) (by rw [hslash]; rfl) rest
  · exact stringBody_escape (by decide) (by rw [hb]; rfl) rest
  · exact stringBody_escape (by decide) (by rw [hf]; rfl) rest
  · exact stringBody_escape (by decide) (by rw [hn]; rfl) rest
  · exact stringBody_escape (by decide) (by rw [hr]; rfl) rest
  · exact stringBody_escape (by decide) (by rw [ht]; rfl) rest
  · exact stringBody_control hcontrol rest
  · exact stringBody_plain hquote hslash hcontrol rest

theorem stringBody_flatMap_escapeChar (s rest : List Char) :
    stringBody (s.flatMap escapeChar ++ '"' :: rest) = some (some s, rest) := by
  induction s with
  | nil => rw [List.flatMap_nil, List.nil_append, stringBody]
  | cons c s ih =>
      rw [List.flatMap_cons, List.append_assoc, stringBody_escapeChar, ih]
      rfl

theorem quote_append (s : String) (rest : List Char) :
    quote s ++ rest = '"' :: (s.toList.flatMap escapeChar ++ '"' :: rest) := by
  simp [quote]

/-! ## Blanks and ends -/

/-- Texts that no number goes on with. -/
def EndsNumber (rest : List Char) : Prop := ∀ c ∈ rest.head?, isNumberChar c = false

theorem endsNumber_cons {c : Char} (h : isNumberChar c = false) (rest : List Char) : EndsNumber (c :: rest) := by
  intro d hd
  obtain rfl := Option.some.inj hd
  exact h

theorem isNumberChar_of_isBlank {c : Char} (h : isBlank c = true) : isNumberChar c = false := by
  simp only [isBlank, Bool.or_eq_true, beq_iff_eq] at h
  rcases h with ((rfl | rfl) | rfl) | rfl <;> decide

theorem endsNumber_append {blanks : List Char} (hblanks : ∀ c ∈ blanks, isBlank c = true) {rest : List Char}
    (h : EndsNumber rest) : EndsNumber (blanks ++ rest) := by
  cases blanks with
  | nil => exact h
  | cons c blanks => exact endsNumber_cons (isNumberChar_of_isBlank (hblanks c List.mem_cons_self)) _

theorem skipBlanks_append {blanks : List Char} (hblanks : ∀ c ∈ blanks, isBlank c = true) (cs : List Char) :
    skipBlanks (blanks ++ cs) = skipBlanks cs :=
  List.dropWhile_append_of_pos hblanks

theorem skipBlanks_cons {c : Char} (h : isBlank c = false) (cs : List Char) : skipBlanks (c :: cs) = c :: cs := by
  rw [skipBlanks, List.dropWhile_cons_of_neg (by simp [h])]

theorem value_append {blanks : List Char} (hblanks : ∀ c ∈ blanks, isBlank c = true) (depth : Nat) (cs : List Char) :
    value depth (blanks ++ cs) = value depth cs := by
  cases depth <;> simp only [value, skipBlanks_append hblanks]

theorem member_append {blanks : List Char} (hblanks : ∀ c ∈ blanks, isBlank c = true)
    (read : List Char → Option (Json × List Char)) (cs : List Char) :
    member read (blanks ++ cs) = member read cs := by
  simp only [member, key, skipBlanks_append hblanks]

/-! ## Items between brackets -/

/-- The marks that close arrays and objects. -/
def IsClosing (c : Char) : Prop := c = ']' ∨ c = '}'

theorem IsClosing.isBlank_eq {c : Char} (h : IsClosing c) : isBlank c = false := by
  rcases h with rfl | rfl <;> decide

theorem IsClosing.isNumberChar_eq {c : Char} (h : IsClosing c) : isNumberChar c = false := by
  rcases h with rfl | rfl <;> decide

theorem IsClosing.ne_comma {c : Char} (h : IsClosing c) : ',' ≠ c := by
  rcases h with rfl | rfl <;> decide

theorem IsClosing.ne_opening {c : Char} (h : IsClosing c) : c ≠ '[' ∧ c ≠ '{' := by
  rcases h with rfl | rfl <;> decide

/-- Texts between brackets, with commas between them and a gap before the closing bracket. -/
def block (opening close : Char) (gap : List Char) : List (List Char) → List Char
  | [] => [opening, close]
  | text :: texts => opening :: (text ++ (texts.flatMap (',' :: ·) ++ (gap ++ [close])))

section Items
variable {α β : Type} {close : Char} {item : List Char → Option (α × List Char)} {text : β → List Char}
  {f : β → α} {gap : List Char}

theorem length_le_length_flatMap (texts : List (List Char)) : texts.length ≤ (texts.flatMap (',' :: ·)).length := by
  induction texts with
  | nil => exact Nat.le_refl 0
  | cons text texts ih =>
      rw [List.flatMap_cons, List.length_append, List.length_cons, List.length_cons]
      omega

/-- Items that are read back one by one are read back up to the closing mark. -/
theorem items_texts (hclose : IsClosing close) (hgap : ∀ c ∈ gap, isBlank c = true) (rest : List Char) {b : β}
    {bs : List β} {fuel : Nat} (hfuel : bs.length < fuel)
    (hread : ∀ b' ∈ b :: bs, ∀ rest, EndsNumber rest → item (text b' ++ rest) = some (f b', rest)) :
    items close item fuel (text b ++ ((bs.map text).flatMap (',' :: ·) ++ (gap ++ close :: rest))) =
      some ((b :: bs).map f, rest) := by
  induction bs generalizing b fuel with
  | nil =>
      obtain ⟨fuel, rfl⟩ := Nat.exists_eq_add_of_lt hfuel
      have hends : EndsNumber (gap ++ close :: rest) :=
        endsNumber_append hgap (endsNumber_cons hclose.isNumberChar_eq rest)
      simp [items, hread b List.mem_cons_self _ hends, skipBlanks_append hgap, skipBlanks_cons hclose.isBlank_eq]
  | cons b' bs ih =>
      obtain ⟨fuel, rfl⟩ := Nat.exists_eq_succ_of_ne_zero (Nat.ne_of_gt (Nat.zero_lt_of_lt hfuel))
      have hrest := ih (b := b') (Nat.lt_of_succ_lt_succ hfuel) fun b'' hb'' => hread b'' (List.mem_cons_of_mem _ hb'')
      have hcomma : ∀ cs, EndsNumber (',' :: cs) := endsNumber_cons (by decide)
      rw [List.map_cons, List.flatMap_cons, items, List.cons_append, List.cons_append, List.append_assoc,
        hread b List.mem_cons_self _ (hcomma _)]
      simp only [Option.bind_eq_bind, Option.bind_some, skipBlanks_cons (show isBlank ',' = false by decide),
        if_neg hclose.ne_comma, if_true, hrest]
      rfl

/-- The inside of a block and its closing mark are read back, if no item begins with that mark. -/
theorem enclosed_block (hclose : IsClosing close) (hgap : ∀ c ∈ gap, isBlank c = true) {opening : Char}
    (hopen : ∀ cs r, item cs = some r → ∃ c cs', skipBlanks cs = c :: cs' ∧ c ≠ close) {bs : List β}
    (hread : ∀ b ∈ bs, ∀ rest, EndsNumber rest → item (text b ++ rest) = some (f b, rest)) (rest : List Char) :
    ∃ inside, block opening close gap (bs.map text) ++ rest = opening :: inside ∧
      enclosed close item inside = some (bs.map f, rest) := by
  cases bs with
  | nil =>
      refine ⟨close :: rest, rfl, ?_⟩
      simp [enclosed, skipBlanks_cons hclose.isBlank_eq]
  | cons b bs =>
      have hfuel : bs.length < (text b ++ ((bs.map text).flatMap (',' :: ·) ++ (gap ++ close :: rest))).length := by
        have hlength := length_le_length_flatMap (bs.map text)
        simp only [List.length_map, List.length_append, List.length_cons] at hlength ⊢
        omega
      refine ⟨_, by simp only [List.map_cons, block, List.cons_append, List.append_assoc, List.nil_append]; rfl, ?_⟩
      -- what the first item is read from does not begin with the closing mark
      have hends : EndsNumber ((bs.map text).flatMap (',' :: ·) ++ (gap ++ close :: rest)) := by
        cases bs with
        | nil => exact endsNumber_append hgap (endsNumber_cons hclose.isNumberChar_eq rest)
        | cons b' bs => exact endsNumber_cons (by decide) _
      obtain ⟨c, cs, hskip, hne⟩ := hopen _ _ (hread b List.mem_cons_self _ hends)
      rw [enclosed, hskip]
      simp only [if_neg hne]
      exact items_texts hclose hgap rest hfuel hread

end Items

/-! ## Scalars -/

theorem scalar_null (rest : List Char) : scalar (['n', 'u', 'l', 'l'] ++ rest) = some (.null, rest) := rfl

theorem scalar_true (rest : List Char) : scalar (['t', 'r', 'u', 'e'] ++ rest) = some (.bool true, rest) := rfl

theorem scalar_false (rest : List Char) : scalar (['f', 'a', 'l', 's', 'e'] ++ rest) = some (.bool false, rest) := rfl

theorem scalar_quote (s : String) (rest : List Char) : scalar (quote s ++ rest) = some (.string s, rest) := by
  rw [quote_append, scalar, stringBody_flatMap_escapeChar, Option.map_some]
  show some (Json.string (String.ofList s.toList), rest) = _
  rw [String.ofList_toList]

theorem scalar_of_isNumberChar {c : Char} (h : isNumberChar c = true) (cs : List Char) :
    scalar (c :: cs) = (ofLiteral? ((c :: cs).takeWhile isNumberChar)).map fun v =>
      (v, (c :: cs).dropWhile isNumberChar) := by
  rw [scalar.eq_def]
  split
  · next heq => exact absurd h (by rw [(List.cons.inj heq).1]; decide)
  · next heq => exact absurd h (by rw [(List.cons.inj heq).1]; decide)
  · next heq => exact absurd h (by rw [(List.cons.inj heq).1]; decide)
  · next heq => exact absurd h (by rw [(List.cons.inj heq).1]; decide)
  · rw [List.span_eq_takeWhile_dropWhile]

theorem scalar_int {n : Int} {v : Json} (h : ofLiteral? (toString n).toList = some v) {rest : List Char}
    (hrest : EndsNumber rest) : scalar ((toString n).toList ++ rest) = some (v, rest) := by
  have hall : ∀ c ∈ (toString n).toList, isNumberChar c = true := fun c hc => isNumberChar_of_mem_toString hc
  have htake : rest.takeWhile isNumberChar = [] := by
    cases rest with
    | nil => rfl
    | cons c rest => rw [List.takeWhile_cons_of_neg (by simp [hrest c rfl])]
  have hdrop : rest.dropWhile isNumberChar = rest := by
    cases rest with
    | nil => rfl
    | cons c rest => rw [List.dropWhile_cons_of_neg (by simp [hrest c rfl])]
  obtain ⟨c, cs, hcons⟩ := List.exists_cons_of_ne_nil (toList_toString_ne_nil n)
  rw [hcons, List.cons_append, scalar_of_isNumberChar (hall c (hcons ▸ List.mem_cons_self)), ← List.cons_append, ← hcons,
    List.takeWhile_append_of_pos hall, List.dropWhile_append_of_pos hall, htake, hdrop, List.append_nil,
    h, Option.map_some]

/-- What begins with no opening bracket is read as a scalar. -/
theorem value_of_head? {cs ds : List Char} (hskip : skipBlanks cs = ds) (harray : ds.head? ≠ some '[')
    (hobject : ds.head? ≠ some '{') (depth : Nat) : value depth cs = scalar ds := by
  subst hskip
  cases depth <;>
  · rw [value]
    split
    · next heq => exact absurd (by rw [heq]; rfl) harray
    · next heq => exact absurd (by rw [heq]; rfl) hobject
    · rfl

theorem value_of_scalar {c : Char} (hblank : isBlank c = false) (harray : c ≠ '[') (hobject : c ≠ '{') (depth : Nat)
    (cs : List Char) : value depth (c :: cs) = scalar (c :: cs) :=
  value_of_head? (skipBlanks_cons hblank cs) (fun h => harray (Option.some.inj h)) (fun h => hobject (Option.some.inj h))
    depth

theorem scalar_closing {close : Char} (h : IsClosing close) (cs : List Char) : scalar (close :: cs) = none := by
  rcases h with rfl | rfl <;> rfl

/-- No value begins with a closing mark. -/
theorem exists_of_value_eq_some {close : Char} (hclose : IsClosing close) {depth : Nat} {cs : List Char}
    {r : Json × List Char} (h : value depth cs = some r) : ∃ c cs', skipBlanks cs = c :: cs' ∧ c ≠ close := by
  cases hskip : skipBlanks cs with
  | nil =>
      rw [value_of_head? hskip (by decide) (by decide)] at h
      cases h
  | cons c cs' =>
      refine ⟨c, cs', rfl, ?_⟩
      rintro rfl
      rw [value_of_head? hskip (fun h => hclose.ne_opening.1 (Option.some.inj h))
        (fun h => hclose.ne_opening.2 (Option.some.inj h)), scalar_closing hclose] at h
      cases h

/-- No member begins with a closing mark. -/
theorem exists_of_member_eq_some {close : Char} (hclose : IsClosing close)
    {read : List Char → Option (Json × List Char)} {cs : List Char} {r : Option (String × Json) × List Char}
    (h : member read cs = some r) : ∃ c cs', skipBlanks cs = c :: cs' ∧ c ≠ close := by
  obtain ⟨name, hkey, -⟩ := Option.bind_eq_some_iff.1 h
  unfold key at hkey
  split at hkey
  · next rest hskip =>
      refine ⟨'"', rest, hskip, ?_⟩
      rcases hclose with rfl | rfl <;> decide
  · cases hkey

/-! ## Arrays and objects -/

theorem ofMembers_map_some (members : List (String × Json)) : ofMembers (members.map some) = .object members := by
  have hmap : (members.map some).mapM id = some members := by
    induction members with
    | nil => rfl
    | cons m ms ih => simp [List.mapM_cons, ih]
  rw [ofMembers, hmap]

theorem value_toString {n : Int} {v : Json} (h : ofLiteral? (toString n).toList = some v) (depth : Nat)
    {rest : List Char} (hrest : EndsNumber rest) :
    value depth ((toString n).toList ++ rest) = some (v, rest) := by
  obtain ⟨c, cs, hcons⟩ := List.exists_cons_of_ne_nil (toList_toString_ne_nil n)
  have hc : isNumberChar c = true := isNumberChar_of_mem_toString (n := n) (hcons ▸ List.mem_cons_self)
  have hblank : isBlank c = false := by
    rw [Bool.eq_false_iff]
    intro hblank
    rw [isNumberChar_of_isBlank hblank] at hc
    cases hc
  have hopening : c ≠ '[' ∧ c ≠ '{' := by
    constructor <;>
    · rintro rfl
      exact absurd hc (by decide)
  rw [← scalar_int h hrest, hcons]
  exact value_of_scalar hblank hopening.1 hopening.2 depth _

theorem value_array {depth : Nat} {inside rest : List Char} {items : List Json}
    (h : enclosed ']' (value depth) inside = some (items, rest)) :
    value (depth + 1) ('[' :: inside) = some (.array items, rest) := by
  rw [value, skipBlanks_cons (by decide)]
  simp only [h, Option.map_some]

theorem value_object {depth : Nat} {inside rest : List Char} {members : List (String × Json)}
    (h : enclosed '}' (member (value depth)) inside = some (members.map some, rest)) :
    value (depth + 1) ('{' :: inside) = some (.object members, rest) := by
  rw [value, skipBlanks_cons (by decide)]
  simp only [h, Option.map_some, ofMembers_map_some]

end DefectTrail.Json
