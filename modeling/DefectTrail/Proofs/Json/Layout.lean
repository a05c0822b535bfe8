import DefectTrail.Proofs.Json.Reader

/-!
# Reading back what is written

Both layouts write a value in the same way, up to blanks: `Json.Layout` says what a layout has to do, and `Layout.compact`
and `Layout.pretty` are the two. What a layout writes is read back as the value itself.

* `Json.Writable` : the values that are written, with their integers and the nesting that they need;
* `Json.Writable.exists_readAs` : they are all read as something;
  `Json.Writable.readAs` : **a value whose integers are not too large is read back, whatever follows it**;
  `Json.ReadAs.parse?_write` says this of texts;
* `Json.newline_notMem_compactChars` : the compact text of a writable value is one line;
* `Json.Writable.isReadable` : all of a writable value can be read.
-/

namespace DefectTrail.Json

/-! ## Layouts -/

/-- A way to write values, which differs from others in its blanks. -/
structure Layout where
  chars : Nat → Json → List Char
  /-- What stands before an item, a member or a closing bracket on a line of the given nesting. -/
  gap : Nat → List Char
  afterColon : List Char
  isBlank_of_mem_gap : ∀ level, ∀ c ∈ gap level, isBlank c = true
  isBlank_of_mem_afterColon : ∀ c ∈ afterColon, isBlank c = true
  chars_null : ∀ level, chars level .null = ['n', 'u', 'l', 'l']
  chars_bool : ∀ level b, chars level (.bool b) = if b then ['t', 'r', 'u', 'e'] else ['f', 'a', 'l', 's', 'e']
  chars_int : ∀ level n, chars level (.int n) = (toString n).toList
  chars_string : ∀ level s, chars level (.string s) = quote s
  chars_array : ∀ level items, chars level (.array items) =
    block '[' ']' (gap level) (items.map fun v => gap (level + 1) ++ chars (level + 1) v)
  chars_object : ∀ level members, chars level (.object members) =
    block '{' '}' (gap level) (members.map fun m =>
      gap (level + 1) ++ (quote m.1 ++ ':' :: (afterColon ++ chars (level + 1) m.2)))

theorem compactItems_eq (vs : List Json) :
    compactItems vs = (vs.map compactChars).flatMap (',' :: ·) ++ [']'] := by
  induction vs with
  | nil => rfl
  | cons v vs ih => rw [compactItems, ih, List.map_cons, List.flatMap_cons, List.cons_append, List.cons_append,
      List.append_assoc]

theorem compactMembers_eq (ms : List (String × Json)) :
    compactMembers ms = (ms.map fun m => quote m.1 ++ ':' :: compactChars m.2).flatMap (',' :: ·) ++ ['}'] := by
  induction ms with
  | nil => rfl
  | cons m ms ih => simp only [compactMembers, ih, List.map_cons, List.flatMap_cons, List.cons_append, List.append_assoc]

theorem prettyItems_eq (level : Nat) (vs : List Json) :
    prettyItems level vs =
      (vs.map fun v => newLine (level + 1) ++ prettyChars (level + 1) v).flatMap (',' :: ·) ++
        (newLine level ++ [']']) := by
  induction vs with
  | nil => rfl
  | cons v vs ih => simp only [prettyItems, ih, List.map_cons, List.flatMap_cons, List.cons_append, List.append_assoc]

theorem prettyMembers_eq (level : Nat) (ms : List (String × Json)) :
    prettyMembers level ms =
      (ms.map fun m => newLine (level + 1) ++ (quote m.1 ++ ':' :: ([' '] ++ prettyChars (level + 1) m.2))).flatMap
        (',' :: ·) ++ (newLine level ++ ['}']) := by
  induction ms with
  | nil => rfl
  | cons m ms ih => simp only [prettyMembers, ih, List.map_cons, List.flatMap_cons, List.cons_append, List.append_assoc,
      List.nil_append]

namespace Layout

/-- The layout without blanks. -/
def compact : Layout where
  chars _ v := v.compactChars
  gap _ := []
  afterColon := []
  isBlank_of_mem_gap _ _ h := nomatch h
  isBlank_of_mem_afterColon _ h := nomatch h
  chars_null _ := rfl
  chars_bool _ b := by cases b <;> rfl
  chars_int _ _ := rfl
  chars_string _ _ := rfl
  chars_array _ items := by
    cases items with
    | nil => rfl
    | cons v vs => simp only [compactChars, compactItems_eq, List.map_cons, block, List.nil_append]
  chars_object _ members := by
    cases members with
    | nil => rfl
    | cons m ms => simp only [compactChars, compactMembers_eq, List.map_cons, block, List.nil_append, List.append_assoc,
        List.cons_append]

/-- The layout with lines. -/
def pretty : Layout where
  chars := prettyChars
  gap := newLine
  afterColon := [' ']
  isBlank_of_mem_gap level c h := by
    rcases List.mem_cons.1 h with rfl | h
    · decide
    · rw [List.eq_of_mem_replicate h]
      decide
  isBlank_of_mem_afterColon c h := by
    rw [List.mem_singleton.1 h]
    decide
  chars_null _ := rfl
  chars_bool _ b := by cases b <;> rfl
  chars_int _ _ := rfl
  chars_string _ _ := rfl
  chars_array level items := by
    cases items with
    | nil => rfl
    | cons v vs => simp only [prettyChars, prettyItems_eq, List.map_cons, block, List.append_assoc]
  chars_object level members := by
    cases members with
    | nil => rfl
    | cons m ms => simp only [prettyChars, prettyMembers_eq, List.map_cons, block, List.append_assoc, List.cons_append,
        List.nil_append]

end Layout

/-! ## Values that are written -/

/-- The value holds nothing that cannot be read, no numbers but integers that `p` admits, and its arrays and objects are
nested at most `depth` deep. -/
inductive Writable (p : Int → Prop) : Nat → Json → Prop where
  | null {depth : Nat} : Writable p depth .null
  | bool {depth : Nat} (b : Bool) : Writable p depth (.bool b)
  | int {depth : Nat} {n : Int} (h : p n) : Writable p depth (.int n)
  | string {depth : Nat} (s : String) : Writable p depth (.string s)
  | array {depth : Nat} {items : List Json} (h : ∀ v ∈ items, Writable p depth v) :
      Writable p (depth + 1) (.array items)
  | object {depth : Nat} {members : List (String × Json)} (h : ∀ m ∈ members, Writable p depth m.2) :
      Writable p (depth + 1) (.object members)

/-- An integer of at most 64 bits, its sign apart. -/
def IsWord (n : Int) : Prop := n.natAbs < UInt64.size

/-- Any integer. -/
def IsAny (_ : Int) : Prop := True

/-- The integers of at most 64 bits are among those that `p` admits. -/
class AdmitsWords (p : Int → Prop) : Prop where
  of_isWord : ∀ {n : Int}, IsWord n → p n

instance : AdmitsWords IsWord := ⟨id⟩

instance : AdmitsWords IsAny := ⟨fun _ => trivial⟩

/-! ## Values that are read back -/

/-- In whatever layout `v` is written, and whatever follows it, it is read as `v'`. -/
def ReadAs (depth : Nat) (v v' : Json) : Prop :=
  ∀ (l : Layout) (level : Nat) (rest : List Char), EndsNumber rest →
    value depth (l.chars level v ++ rest) = some (v', rest)

theorem member_quote (l : Layout) {depth level : Nat} (name : String) {v v' : Json} {rest : List Char}
    (hread : value depth (l.chars level v ++ rest) = some (v', rest)) :
    member (value depth) (quote name ++ ':' :: (l.afterColon ++ l.chars level v) ++ rest) =
      some (some (name, v'), rest) := by
  have hkey : key (quote name ++ ':' :: (l.afterColon ++ l.chars level v) ++ rest) =
      some (some name.toList, l.afterColon ++ (l.chars level v ++ rest)) := by
    rw [List.append_assoc, quote_append, key, skipBlanks_cons (by decide)]
    simp only [stringBody_flatMap_escapeChar, Option.bind_eq_bind, Option.bind_some, List.cons_append, List.append_assoc,
      skipBlanks_cons (show isBlank ':' = false by decide), Option.pure_def]
  simp only [member, hkey, Option.bind_eq_bind, Option.bind_some, value_append l.isBlank_of_mem_afterColon, hread,
    Option.map_some, String.ofList_toList, Option.pure_def]

namespace ReadAs
variable {depth : Nat}

theorem null : ReadAs depth .null .null := by
  intro l level rest _
  rw [l.chars_null]
  exact (value_of_scalar (by decide) (by decide) (by decide) _ _).trans (scalar_null rest)

theorem bool (b : Bool) : ReadAs depth (.bool b) (.bool b) := by
  intro l level rest _
  rw [l.chars_bool]
  cases b with
  | false => exact (value_of_scalar (by decide) (by decide) (by decide) _ _).trans (scalar_false rest)
  | true => exact (value_of_scalar (by decide) (by decide) (by decide) _ _).trans (scalar_true rest)

theorem int {n : Int} {v : Json} (h : ofLiteral? (toString n).toList = some v) : ReadAs depth (.int n) v := by
  intro l level rest hrest
  rw [l.chars_int]
  exact value_toString h _ hrest

theorem string (s : String) : ReadAs depth (.string s) (.string s) := by
  intro l level rest _
  rw [l.chars_string, ← scalar_quote, quote_append]
  exact value_of_scalar (by decide) (by decide) (by decide) _ _

/-- An array is read item by item. -/
theorem array {α : Type} {items : List α} {f g : α → Json} (h : ∀ a ∈ items, ReadAs depth (f a) (g a)) :
    ReadAs (depth + 1) (.array (items.map f)) (.array (items.map g)) := by
  intro l level rest _
  have hread : ∀ a ∈ items, ∀ rest, EndsNumber rest →
      value depth (l.gap (level + 1) ++ l.chars (level + 1) (f a) ++ rest) = some (g a, rest) := by
    intro a ha rest hrest
    rw [List.append_assoc, value_append (l.isBlank_of_mem_gap _)]
    exact h a ha l (level + 1) rest hrest
  obtain ⟨inside, hblock, hinside⟩ := enclosed_block (Or.inl rfl) (l.isBlank_of_mem_gap level)
    (fun _ _ => exists_of_value_eq_some (Or.inl rfl)) hread rest
  rw [l.chars_array, List.map_map]
  exact (congrArg _ hblock).trans (value_array hinside)

/-- An object is read member by member, with its names. -/
theorem object {α : Type} {members : List α} (name : α → String) {f g : α → Json}
    (h : ∀ a ∈ members, ReadAs depth (f a) (g a)) :
    ReadAs (depth + 1) (.object (members.map fun a => (name a, f a)))
      (.object (members.map fun a => (name a, g a))) := by
  intro l level rest _
  have hread : ∀ a ∈ members, ∀ rest, EndsNumber rest →
      member (value depth)
        (l.gap (level + 1) ++ (quote (name a) ++ ':' :: (l.afterColon ++ l.chars (level + 1) (f a))) ++ rest) =
        some (some (name a, g a), rest) := by
    intro a ha rest hrest
    rw [List.append_assoc, member_append (l.isBlank_of_mem_gap _)]
    exact member_quote l (name a) (h a ha l (level + 1) rest hrest)
  obtain ⟨inside, hblock, hinside⟩ := enclosed_block (Or.inr rfl) (l.isBlank_of_mem_gap level)
    (fun _ _ => exists_of_member_eq_some (Or.inr rfl)) hread rest
  rw [l.chars_object, List.map_map]
  refine (congrArg _ hblock).trans (value_object ?_)
  rw [hinside, List.map_map]
  rfl

end ReadAs

/-- What is written is read as something, and as itself if its integers are of at most 64 bits. -/
theorem Writable.exists_readAs {p : Int → Prop} {depth : Nat} {v : Json} (h : Writable p depth v) :
    ∃ v', ReadAs depth v v' ∧ ((∀ n, p n → IsWord n) → v' = v) := by
  induction h with
  | null => exact ⟨_, .null, fun _ => rfl⟩
  | bool b => exact ⟨_, .bool b, fun _ => rfl⟩
  | @int _ n h =>
      obtain ⟨large, hread, hlarge⟩ := ofLiteral?_toString_eq n
      refine ⟨_, .int hread, fun hp => ?_⟩
      rw [hlarge (hp n h)]
      rfl
  | string s => exact ⟨_, .string s, fun _ => rfl⟩
  | @array depth items h ih =>
      choose! f hf using ih
      have hread := ReadAs.array (f := id) fun v hv => (hf v hv).1
      rw [List.map_id] at hread
      refine ⟨_, hread, fun hp => ?_⟩
      rw [List.map_congr_left fun v hv => (hf v hv).2 hp, List.map_id']
  | @object depth members h ih =>
      choose! f hf using ih
      have hread := ReadAs.object Prod.fst (f := Prod.snd) fun m hm => (hf m hm).1
      rw [List.map_id'] at hread
      refine ⟨_, hread, fun hp => ?_⟩
      rw [List.map_congr_left fun m hm => congrArg (Prod.mk m.1) ((hf m hm).2 hp), List.map_id']

/-- **What is written is read back, if its integers are of at most 64 bits.** -/
theorem Writable.readAs {depth : Nat} {v : Json} (h : Writable IsWord depth v) : ReadAs depth v v := by
  obtain ⟨v', hread, hv⟩ := h.exists_readAs
  rwa [hv fun _ hn => hn] at hread

/-! ## Texts -/

/-- A text is read as the value that it begins with, if nothing but blanks follows. -/
theorem ReadAs.parse?_chars {v v' : Json} (h : ReadAs maxDepth v v') (l : Layout) {blanks : List Char}
    (hblanks : ∀ c ∈ blanks, isBlank c = true) : parse? (String.ofList (l.chars 0 v ++ blanks)) = some v' := by
  have hends : EndsNumber blanks := fun c hc => isNumberChar_of_isBlank (hblanks c (List.mem_of_mem_head? hc))
  have hskip : skipBlanks blanks = [] := List.dropWhile_eq_nil_iff.2 hblanks
  rw [parse?, String.toList_ofList, h l 0 blanks hends]
  exact if_pos hskip

/-- Both ways to write a value make a text that is read. -/
theorem ReadAs.parse?_write {v v' : Json} (h : ReadAs maxDepth v v') {write : Json → String}
    (hwrite : write ∈ [Json.compact, Json.pretty]) : parse? (write v) = some v' := by
  have hparse (l : Layout) : parse? (String.ofList (l.chars 0 v)) = some v' := by
    have hparse := h.parse?_chars l (List.forall_mem_nil _)
    rwa [List.append_nil] at hparse
  rcases List.mem_pair.1 hwrite with rfl | rfl
  · exact hparse Layout.compact
  · exact hparse Layout.pretty

theorem parse?_compact {v : Json} (h : Writable IsWord maxDepth v) : parse? v.compact = some v :=
  h.readAs.parse?_write List.mem_cons_self

theorem parse?_pretty {v : Json} (h : Writable IsWord maxDepth v) : parse? v.pretty = some v :=
  h.readAs.parse?_write (List.mem_cons_of_mem _ List.mem_cons_self)

/-! ## One line -/

theorem newline_notMem_escapeChar (c : Char) : '\n' ∉ escapeChar c := by
  have hdigit : ∀ d < 16, '\n' ≠ hexDigit d := by decide
  unfold escapeChar
  split_ifs with hquote hslash hb hf hn hr ht hcontrol
  iterate 7 decide
  · have hhigh : '\n' ≠ hexDigit (c.toNat / 16) := hdigit _ (by omega)
    have hlow : '\n' ≠ hexDigit (c.toNat % 16) := hdigit _ (Nat.mod_lt _ (by decide))
    simp [hhigh, hlow]
  · rw [List.mem_singleton]
    exact fun h => hn h.symm

theorem newline_notMem_quote (s : String) : '\n' ∉ quote s := by
  have hbody : '\n' ∉ s.toList.flatMap escapeChar := by
    intro h
    obtain ⟨c, -, hc⟩ := List.mem_flatMap.1 h
    exact newline_notMem_escapeChar c hc
  simp [quote, hbody]

theorem notMem_block {c opening close : Char} {gap : List Char} {texts : List (List Char)} (hopening : c ≠ opening)
    (hclose : c ≠ close) (hcomma : c ≠ ',') (hgap : c ∉ gap) (htexts : ∀ text ∈ texts, c ∉ text) :
    c ∉ block opening close gap texts := by
  cases texts with
  | nil => simp [block, hopening, hclose]
  | cons text texts =>
      obtain ⟨htext, htexts⟩ := List.forall_mem_cons.1 htexts
      have hrest : c ∉ texts.flatMap (',' :: ·) := by
        intro h
        obtain ⟨t, ht, hc⟩ := List.mem_flatMap.1 h
        exact htexts t ht ((List.mem_cons.1 hc).resolve_left hcomma)
      simp only [block, List.mem_cons, List.mem_append, not_or, List.not_mem_nil, not_false_eq_true, and_true]
      exact ⟨hopening, htext, hrest, hgap, hclose⟩

/-- **The compact text of a writable value is one line.** -/
theorem newline_notMem_compactChars {p : Int → Prop} {depth : Nat} {v : Json} (h : Writable p depth v) :
    '\n' ∉ v.compactChars := by
  induction h with
  | null => decide
  | bool b => cases b <;> decide
  | @int _ n h =>
      intro hmem
      exact absurd (isNumberChar_of_mem_toString hmem) (by decide)
  | string s => exact newline_notMem_quote s
  | array h ih =>
      show '\n' ∉ Layout.compact.chars 0 _
      rw [Layout.chars_array]
      refine notMem_block (by decide) (by decide) (by decide) List.not_mem_nil fun text htext => ?_
      obtain ⟨v, hv, rfl⟩ := List.mem_map.1 htext
      exact ih v hv
  | object h ih =>
      show '\n' ∉ Layout.compact.chars 0 _
      rw [Layout.chars_object]
      refine notMem_block (by decide) (by decide) (by decide) List.not_mem_nil fun text htext => ?_
      obtain ⟨m, hm, rfl⟩ := List.mem_map.1 htext
      have hname := newline_notMem_quote m.1
      have hvalue := ih m hm
      simp only [Layout.compact, List.nil_append, List.mem_append, List.mem_cons, not_or]
      exact ⟨hname, by decide, hvalue⟩

/-! ## Values that can be read -/

theorem itemsReadable_iff {vs : List Json} : itemsReadable vs = true ↔ ∀ v ∈ vs, v.isReadable = true := by
  induction vs with
  | nil => simp [itemsReadable]
  | cons v vs ih => rw [itemsReadable, Bool.and_eq_true, ih, List.forall_mem_cons]

theorem membersReadable_iff {ms : List (String × Json)} :
    membersReadable ms = true ↔ ∀ m ∈ ms, m.2.isReadable = true := by
  induction ms with
  | nil => simp [membersReadable]
  | cons m ms ih => rw [membersReadable, Bool.and_eq_true, ih, List.forall_mem_cons]

theorem Writable.isReadable {p : Int → Prop} {depth : Nat} {v : Json} (h : Writable p depth v) :
    v.isReadable = true := by
  induction h with
  | null | bool | int | string => rfl
  | array h ih => exact itemsReadable_iff.2 ih
  | object h ih => exact membersReadable_iff.2 ih

end DefectTrail.Json
