import DefectTrail.Glob.Compiler
import DefectTrail.Glob.Match
import DefectTrail.Glob.Parser
import DefectTrail.Proofs.Glob.Language
import DefectTrail.Proofs.Text.Utf8

/-!
# Globs of names

A plain name is read as itself. With two stars before it, or before and after it, it stands for the paths that end in
it, or for those that lead through it. The bytes of a path come apart at slashes as its text does, and only its own
bytes are shown as a plain name.

* `getLast?_splitOn_eq_some_iff`, `mem_dropLast_splitOn_iff` : the last piece between separators, and the pieces before;
* `Path.parts_text`, `Path.text_eq_iff` : the parts of a path's text;
* `Glob.IsPlainName`, `Glob.parse?_name`, `Glob.parse?_below` : names that patterns read as themselves;
* `Glob.accepts_name_iff`, `Glob.accepts_below_iff` : what patterns of a name accept;
* `Glob.strategy_name`, `Glob.strategy_below` : how they are tried.
-/

namespace DefectTrail

/-! ## Pieces between separators -/

section Pieces

variable {α : Type} {sep : α} {l w : List α}

theorem intercalate_append {xs ys : List (List α)} (hxs : xs ≠ []) (hys : ys ≠ []) :
    [sep].intercalate (xs ++ ys) = [sep].intercalate xs ++ sep :: [sep].intercalate ys := by
  induction xs with
  | nil => exact absurd rfl hxs
  | cons x xs ih =>
      by_cases hnil : xs = []
      · obtain rfl := hnil
        rw [List.singleton_append, List.intercalate_cons_of_ne_nil hys, List.intercalate_singleton, List.append_assoc,
          List.singleton_append]
      · rw [List.cons_append, List.intercalate_cons_of_ne_nil (List.append_ne_nil_of_left_ne_nil hnil ys), ih hnil,
          List.intercalate_cons_of_ne_nil hnil, List.append_assoc _ _ (sep :: _)]

variable [DecidableEq α]

/-- A piece is the last one if it is the whole or stands after a separator at the end. -/
theorem getLast?_splitOn_eq_some_iff (hw : sep ∉ w) :
    (l.splitOn sep).getLast? = some w ↔ l = w ∨ ∃ u, l = u ++ sep :: w := by
  constructor
  · intro hlast
    obtain ⟨before, hpieces⟩ := List.getLast?_eq_some_iff.1 hlast
    have hwhole : [sep].intercalate (l.splitOn sep) = l := List.intercalate_splitOn sep
    rw [← hwhole, hpieces]
    by_cases hnil : before = []
    · left
      rw [hnil, List.nil_append, List.intercalate_singleton]
    · right
      rw [intercalate_append hnil (List.cons_ne_nil w []), List.intercalate_singleton]
      exact ⟨_, rfl⟩
  · rintro (rfl | ⟨u, rfl⟩)
    · rw [List.splitOn_eq_singleton hw, List.getLast?_singleton]
    · rw [List.splitOn_append_cons_self, List.splitOn_eq_singleton hw, List.getLast?_concat]

/-- A piece comes before another one if a separator stands after it, and before it there is nothing or a separator. -/
theorem mem_dropLast_splitOn_iff (hw : sep ∉ w) :
    w ∈ (l.splitOn sep).dropLast ↔ (∃ v, l = w ++ sep :: v) ∨ ∃ u v, l = u ++ sep :: (w ++ sep :: v) := by
  constructor
  · intro hmem
    obtain ⟨before, between, hinit⟩ := List.append_of_mem hmem
    have hpieces := List.dropLast_append_getLast (List.splitOn_ne_nil sep l)
    rw [hinit, List.append_assoc, List.cons_append] at hpieces
    generalize (l.splitOn sep).getLast _ = last at hpieces
    have hafter : [sep].intercalate (w :: (between ++ [last])) = w ++ sep :: [sep].intercalate (between ++ [last]) := by
      have hback : between ++ [last] ≠ [] := List.append_ne_nil_of_right_ne_nil between (List.cons_ne_nil last [])
      rw [List.intercalate_cons_of_ne_nil hback, List.append_assoc, List.singleton_append]
    have hwhole : [sep].intercalate (l.splitOn sep) = l := List.intercalate_splitOn sep
    rw [← hwhole, ← hpieces]
    by_cases hnil : before = []
    · left
      rw [hnil, List.nil_append, hafter]
      exact ⟨_, rfl⟩
    · right
      rw [intercalate_append hnil (List.cons_ne_nil w _), hafter]
      exact ⟨_, _, rfl⟩
  · have hpieces (v : List α) : (w ++ sep :: v).splitOn sep = w :: v.splitOn sep := by
      rw [List.splitOn_append_cons_self, List.splitOn_eq_singleton hw, List.singleton_append]
    rintro (⟨v, rfl⟩ | ⟨u, v, rfl⟩)
    · rw [hpieces, List.dropLast_cons_of_ne_nil (List.splitOn_ne_nil sep v)]
      exact List.mem_cons_self
    · rw [List.splitOn_append_cons_self, hpieces, List.dropLast_append_cons,
        List.dropLast_cons_of_ne_nil (List.splitOn_ne_nil sep v)]
      exact List.mem_append_right _ List.mem_cons_self

end Pieces

/-! ## Parts of paths -/

namespace Path

theorem parts_eq_map_splitOn (path : Path) : parts path = (path.bytes.splitOn 47).map mk := rfl

theorem getLast?_parts_iff {name path : Path} (h : 47 ∉ name.bytes) :
    (parts path).getLast? = some name ↔ path.bytes = name.bytes ∨ ∃ u, path.bytes = u ++ 47 :: name.bytes := by
  rw [← getLast?_splitOn_eq_some_iff h, parts_eq_map_splitOn, List.getLast?_map, Option.map_eq_some_iff]
  constructor
  · rintro ⟨piece, hlast, rfl⟩
    exact hlast
  · exact fun hlast => ⟨name.bytes, hlast, rfl⟩

theorem mem_dropLast_parts_iff {name path : Path} (h : 47 ∉ name.bytes) :
    name ∈ (parts path).dropLast ↔
      (∃ v, path.bytes = name.bytes ++ 47 :: v) ∨ ∃ u v, path.bytes = u ++ 47 :: (name.bytes ++ 47 :: v) := by
  rw [← mem_dropLast_splitOn_iff h, parts_eq_map_splitOn, ← List.map_dropLast, List.mem_map]
  constructor
  · rintro ⟨piece, hmem, rfl⟩
    exact hmem
  · exact fun hmem => ⟨name.bytes, hmem, rfl⟩

/-- The parts of a path are shown one by one. -/
theorem parts_text (path : Path) : parts path.text = (parts path).map fun part => ofString part.text := by
  have htext (part : Path) : (ofString part.text).bytes = Text.utf8 (Text.decode part.bytes) := by
    rw [ofString, text, String.toList_ofList]
  rw [parts_eq_map_splitOn, parts_eq_map_splitOn, htext, Text.splitOn_utf8_decode, List.map_map, List.map_map]
  exact List.map_congr_left fun piece _ => bytes_inj.1 (htext ⟨piece⟩).symm

/-- No other path is shown as an ASCII text. -/
theorem text_eq_iff {path : Path} {text : String} (h : ∀ c ∈ text.toList, 0 < c.toNat ∧ c.toNat < 128) :
    path.text = text ↔ path = text := by
  rw [Path.text, ← String.toList_inj, String.toList_ofList, Text.decode_eq_iff h]
  exact bytes_inj

end Path

namespace Glob

variable {name path : String}

/-! ## What patterns of a name take -/

theorem mem_leadingDirs_mul_iff {L : Language UInt8} {bytes : List UInt8} :
    bytes ∈ Token.leadingDirs.language * L ↔ bytes ∈ L ∨ ∃ u, ∃ v ∈ L, bytes = u ++ 47 :: v := by
  rw [Token.language, add_mul, one_mul, mul_assoc, Language.mem_add, Language.mem_mul]
  refine or_congr_right ⟨?_, ?_⟩
  · rintro ⟨u, -, w, ⟨s, ⟨b, rfl, rfl⟩, v, hv, rfl⟩, rfl⟩
    exact ⟨u, v, hv, rfl⟩
  · rintro ⟨u, v, hv, rfl⟩
    exact ⟨u, trivial, 47 :: v, ⟨[47], ⟨47, rfl, rfl⟩, v, hv, rfl⟩, rfl⟩

theorem tokensLanguage_append (ts us : List Token) :
    tokensLanguage (ts ++ us) = tokensLanguage ts * tokensLanguage us := by
  induction ts with
  | nil => rw [List.nil_append, tokensLanguage, one_mul]
  | cons t ts ih => rw [List.cons_append, tokensLanguage, tokensLanguage, ih, mul_assoc]

theorem mem_tokensLanguage_literals_iff {cs : List Char} {bytes : List UInt8} :
    bytes ∈ tokensLanguage (cs.map .literal) ↔ bytes = Text.utf8 cs := by
  induction cs generalizing bytes with
  | nil => rw [List.map_nil, tokensLanguage, Language.mem_one, Text.utf8, List.flatMap_nil]
  | cons c cs ih =>
      rw [List.map_cons, tokensLanguage, Token.language, Language.mem_mul, Text.utf8_cons]
      constructor
      · rintro ⟨u, rfl, v, hv, rfl⟩
        rw [ih.1 hv]
      · rintro rfl
        exact ⟨_, rfl, _, ih.2 rfl, rfl⟩

/-- Leading directories and a name take the paths that end in the name. -/
theorem takes_name_iff (h : '/' ∉ name.toList) :
    takes (.leadingDirs :: name.toList.map .literal) path = true ↔
      (Path.parts path).getLast? = some (Path.ofString name) := by
  have hname : 47 ∉ (Path.ofString name).bytes := mt Text.slash_mem_utf8_iff.1 h
  rw [takes_iff, tokensLanguage, mem_leadingDirs_mul_iff, Path.getLast?_parts_iff hname]
  simp only [mem_tokensLanguage_literals_iff, exists_eq_left]
  rfl

/-- Leading directories, a name and a trailing path take the paths below that name. -/
theorem takes_below_iff (h : '/' ∉ name.toList) :
    takes (.leadingDirs :: (name.toList.map .literal ++ [.trailingPath])) path = true ↔
      Path.ofString name ∈ (Path.parts path).dropLast := by
  have hname : 47 ∉ (Path.ofString name).bytes := mt Text.slash_mem_utf8_iff.1 h
  have hbelow (bytes : List UInt8) : bytes ∈ tokensLanguage (name.toList.map .literal ++ [.trailingPath]) ↔
      ∃ v, bytes = Text.utf8 name.toList ++ 47 :: v := by
    rw [tokensLanguage_append, tokensLanguage, tokensLanguage, mul_one, Token.language, Language.mem_mul]
    constructor
    · rintro ⟨u, hu, w, ⟨s, ⟨b, rfl, rfl⟩, v, -, rfl⟩, rfl⟩
      exact ⟨v, by rw [mem_tokensLanguage_literals_iff.1 hu]; rfl⟩
    · rintro ⟨v, rfl⟩
      exact ⟨_, mem_tokensLanguage_literals_iff.2 rfl, _, ⟨[47], ⟨47, rfl, rfl⟩, v, trivial, rfl⟩, rfl⟩
  rw [takes_iff, tokensLanguage, mem_leadingDirs_mul_iff, Path.mem_dropLast_parts_iff hname, hbelow]
  simp only [hbelow]
  refine or_congr_right ⟨?_, ?_⟩
  · rintro ⟨u, w, ⟨v, rfl⟩, hpath⟩
    exact ⟨u, v, hpath⟩
  · rintro ⟨u, v, hpath⟩
    exact ⟨u, _, ⟨v, rfl⟩, hpath⟩

/-! ## Reading names -/

/-- ASCII letters and digits, underscores, dashes and dots, which mean nothing to a pattern but themselves. -/
def IsPlainChar (c : Char) : Prop := c.isAlphanum ∨ c = '_' ∨ c = '-' ∨ c = '.'

instance (c : Char) : Decidable (IsPlainChar c) := inferInstanceAs (Decidable (_ ∨ _))

/-- A name of plain characters with a letter or a digit at the end. -/
structure IsPlainName (name : String) : Prop where
  chars : ∀ c ∈ name.toList, IsPlainChar c
  last : ∃ c, name.toList.getLast? = some c ∧ c.isAlphanum

theorem IsPlainChar.ne {c d : Char} (hc : IsPlainChar c) (hd : ¬IsPlainChar d) : c ≠ d := by
  rintro rfl
  exact hd hc

theorem IsPlainChar.ascii {c : Char} (h : IsPlainChar c) : 0 < c.toNat ∧ c.toNat < 128 := by
  have hval : c.toNat = c.val.toNat := rfl
  rcases h with h | rfl | rfl | rfl
  · simp only [Char.isAlphanum, Char.isAlpha, Char.isUpper, Char.isLower, Char.isDigit, Bool.or_eq_true,
      Bool.and_eq_true, decide_eq_true_eq, UInt32.le_iff_toNat_le] at h
    rcases h with (⟨hlow, hhigh⟩ | ⟨hlow, hhigh⟩) | ⟨hlow, hhigh⟩ <;>
      exact hval ▸ ⟨Nat.lt_of_lt_of_le (by decide) hlow, Nat.lt_of_le_of_lt hhigh (by decide)⟩
  all_goals decide

namespace IsPlainName

theorem no_slash (h : IsPlainName name) : '/' ∉ name.toList := fun hslash =>
  (h.chars '/' hslash).ne (by decide) rfl

theorem ne_empty (h : IsPlainName name) : name ≠ "" := by
  rintro rfl
  obtain ⟨c, hlast, -⟩ := h.last
  cases hlast

theorem toList_ne_nil (h : IsPlainName name) : name.toList ≠ [] := fun hnil => h.ne_empty (String.toList_inj.1 hnil)

theorem ascii (h : IsPlainName name) : ∀ c ∈ name.toList, 0 < c.toNat ∧ c.toNat < 128 := fun c hc =>
  (h.chars c hc).ascii

theorem ne_dots (h : IsPlainName name) : name ≠ ".." := by
  rintro rfl
  obtain ⟨c, hlast, hc⟩ := h.last
  obtain rfl := Option.some.inj hlast
  exact absurd hc (by decide)

/-- Only the name itself is shown as it. -/
theorem text_eq_iff (h : IsPlainName name) {part : Path} :
    Path.ofString part.text = Path.ofString name ↔ part = Path.ofString name := by
  constructor
  · intro hpart
    have htext := congrArg Path.text hpart
    rw [Path.text_ofString, Path.text_ofString] at htext
    exact (Path.text_eq_iff h.ascii).1 htext
  · intro hpart
    rw [(Path.text_eq_iff h.ascii).2 hpart]

end IsPlainName

theorem scan_plainChar {c : Char} (h : IsPlainChar c) (b : Builder) (before : Option Char) (rest : List Char) :
    scan b before (c :: rest) = scan (b.push (.literal c)) (some c) rest := by
  rw [scan]
  all_goals first
    | exact h.ne (by decide)
    | exact fun hc _ => h.ne (by decide) hc
    | exact fun _ hc _ => h.ne (by decide) hc
    | exact fun _ _ hc _ => h.ne (by decide) hc

/-- Plain characters are read as themselves. -/
theorem scan_plain {cs : List Char} (h : ∀ c ∈ cs, IsPlainChar c) (b : Builder)
    (before : Option Char) (rest : List Char) :
    scan b before (cs ++ rest) =
      scan { b with current := (cs.map .literal).reverse ++ b.current } (cs.getLast?.or before) rest := by
  induction cs generalizing b before with
  | nil => rfl
  | cons c cs ih =>
      obtain ⟨hc, hcs⟩ := List.forall_mem_cons.1 h
      have hlast : (c :: cs).getLast?.or before = cs.getLast?.or (some c) := by
        rw [List.getLast?_cons]
        cases cs.getLast? <;> rfl
      rw [List.cons_append, scan_plainChar hc, ih hcs, hlast, List.map_cons, List.reverse_cons, List.append_assoc]
      rfl

theorem parse?_name (h : IsPlainName name) :
    parse? ("**/" ++ name) = some (.leadingDirs :: name.toList.map .literal) := by
  have hread : parse? ("**/" ++ name) = scan (Builder.start.push .leadingDirs) (some '/') (name.toList ++ []) := by
    rw [parse?, String.toList_append, List.append_nil]
    rfl
  rw [hread, scan_plain h.chars, scan, Builder.finish?]
  simp [Builder.inGroup, Builder.start, Builder.push]

theorem parse?_below (h : IsPlainName name) :
    parse? ("**/" ++ name ++ "/**") = some (.leadingDirs :: (name.toList.map .literal ++ [.trailingPath])) := by
  have hread : parse? ("**/" ++ name ++ "/**") =
      scan (Builder.start.push .leadingDirs) (some '/') (name.toList ++ ['/', '*', '*']) := by
    rw [parse?, String.toList_append, String.toList_append, List.append_assoc]
    rfl
  -- the last two stars take the place of the slash before them
  have hend (b : Builder) (hb : b.inGroup = false) (before : Option Char) :
      scan b before ['/', '*', '*'] = some (b.current.reverse ++ [.trailingPath]) := by
    have hstars : scan b before ['/', '*', '*'] = (b.push .trailingPath).finish? := rfl
    have hopen : ¬(b.push .trailingPath).inGroup := Bool.eq_false_iff.1 hb
    rw [hstars, Builder.finish?, if_neg hopen, Builder.push, List.reverse_cons]
  rw [hread, scan_plain h.chars, hend _ rfl]
  simp [Builder.start, Builder.push]

/-! ## How patterns of a name are tried -/

theorem literalText?_literals (cs : List Char) : literalText? (cs.map .literal) = some cs := by
  induction cs with
  | nil => rfl
  | cons c cs ih => rw [List.map_cons, literalText?, ih, Option.map_some]

theorem literalText?_append_trailingPath (cs : List Char) :
    literalText? (cs.map .literal ++ [.trailingPath]) = none := by
  induction cs with
  | nil => rfl
  | cons c cs ih => rw [List.map_cons, List.cons_append, literalText?, ih, Option.map_none]

/-- The name of a file is compared with the name. -/
theorem strategy_name (h : IsPlainName name) : strategy (.leadingDirs :: name.toList.map .literal) = .name := by
  obtain ⟨c, cs, hname⟩ := List.exists_cons_of_ne_nil h.toList_ne_nil
  have htext := literalText?_literals name.toList
  have hslash : name.toList.contains '/' = false := by
    rw [← Bool.not_eq_true, List.contains_iff_mem]
    exact h.no_slash
  have hending : Strategy.ofEnding true false name.toList = .name := by
    rw [Strategy.ofEnding, if_neg h.toList_ne_nil, hslash]
    rfl
  rw [hname] at htext hending ⊢
  simp only [strategy, splitLeadingDirs, List.map_cons, splitStar]
  rw [List.map_cons] at htext
  rw [htext]
  exact hending

/-- Paths below a name are told by an expression. -/
theorem strategy_below (h : IsPlainName name) :
    strategy (.leadingDirs :: (name.toList.map .literal ++ [.trailingPath])) = .expression := by
  obtain ⟨c, cs, hname⟩ := List.exists_cons_of_ne_nil h.toList_ne_nil
  have htext := literalText?_append_trailingPath name.toList
  have hbeginning : isBeginning (.leadingDirs :: (name.toList.map .literal ++ [.trailingPath])) = false := by
    rw [isBeginning, ← List.cons_append, List.getLast?_concat, List.dropLast_concat]
    rfl
  have hextension :
      endsInExtension (.leadingDirs :: (name.toList.map .literal ++ [.trailingPath])).reverse = false := by
    rw [← List.cons_append, List.reverse_concat]
    rfl
  rw [strategy, hbeginning, hextension]
  rw [hname, List.map_cons, List.cons_append] at htext ⊢
  simp only [splitLeadingDirs, splitStar, htext]
  rfl

/-! ## What patterns of a name accept -/

/-- Only leading directories alone accept paths that they do not take. -/
theorem accepts_eq {t : Token} {ts : List Token} (hts : ts ≠ []) :
    accepts (t :: ts) path = ((hasName path || !(strategy (t :: ts)).asksName) && takes (t :: ts) path) := by
  rw [accepts]
  exact fun h => hts (List.cons.inj h).2

/-- Leading directories and a name accept the paths that end in the name. -/
theorem accepts_name_iff (h : IsPlainName name) :
    accepts (.leadingDirs :: name.toList.map .literal) path = true ↔
      (Path.parts path).getLast? = some (Path.ofString name) := by
  rw [accepts_eq (mt List.map_eq_nil_iff.1 h.toList_ne_nil), Bool.and_eq_true, takes_name_iff h.no_slash]
  refine and_iff_right_of_imp fun hlast => ?_
  have hnamed : hasName path = true := by
    rw [hasName, hlast, bne_iff_ne]
    intro hdots
    have htext := congrArg Path.text (Option.some.inj hdots)
    rw [Path.text_ofString, Path.text_ofString] at htext
    exact h.ne_dots htext
  rw [hnamed, Bool.true_or]

/-- Leading directories, a name and a trailing path accept the paths below that name. -/
theorem accepts_below_iff (h : IsPlainName name) :
    accepts (.leadingDirs :: (name.toList.map .literal ++ [.trailingPath])) path = true ↔
      Path.ofString name ∈ (Path.parts path).dropLast := by
  -- such a pattern asks for no name, so that paths that end in two dots are no exception
  rw [accepts_eq (List.append_ne_nil_of_right_ne_nil _ (List.cons_ne_nil _ _)), strategy_below h, Strategy.asksName,
    Bool.not_false, Bool.or_true, Bool.true_and, takes_below_iff h.no_slash]

/-! ## Names in what is shown of a path -/

theorem getLast?_parts_text_iff (h : IsPlainName name) (path : Path) :
    (Path.parts path.text).getLast? = some (Path.ofString name) ↔
      (Path.parts path).getLast? = some (Path.ofString name) := by
  rw [Path.parts_text, List.getLast?_map, Option.map_eq_some_iff]
  constructor
  · rintro ⟨part, hlast, hpart⟩
    rw [← h.text_eq_iff.1 hpart, hlast]
  · exact fun hlast => ⟨_, hlast, congrArg Path.ofString (Path.text_ofString name)⟩

theorem mem_dropLast_parts_text_iff (h : IsPlainName name) (path : Path) :
    Path.ofString name ∈ (Path.parts path.text).dropLast ↔ Path.ofString name ∈ (Path.parts path).dropLast := by
  rw [Path.parts_text, ← List.map_dropLast, List.mem_map]
  constructor
  · rintro ⟨part, hmem, hpart⟩
    rwa [← h.text_eq_iff.1 hpart]
  · exact fun hmem => ⟨_, hmem, congrArg Path.ofString (Path.text_ofString name)⟩

/-! ## Levels of patterns of a name -/

theorem tokensLevels_literals (cs : List Char) (ts : List Token) :
    tokensLevels (cs.map .literal ++ ts) = tokensLevels ts := by
  induction cs with
  | nil => rfl
  | cons c cs ih =>
      rw [List.map_cons, List.cons_append, tokensLevels, ih, Token.levels]
      exact Nat.zero_max _

theorem tokensLevels_below (cs : List Char) :
    tokensLevels (.leadingDirs :: (cs.map .literal ++ [.trailingPath])) = 4 := by
  rw [tokensLevels, tokensLevels_literals]
  rfl

end Glob

end DefectTrail
