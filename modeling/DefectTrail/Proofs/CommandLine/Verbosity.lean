import DefectTrail.CommandLine.Arguments
import Mathlib.Data.List.Basic
import Mathlib.Data.List.TakeDrop
import Mathlib.Data.List.TakeWhile

/-!
# Arguments that only say how much is logged

Some arguments only say how much is logged (`isVerbosityFlag`). They may stand anywhere before two dashes, and without
them (`withoutVerbosity`) a command line asks for the same command.

* `split?_withoutVerbosity` : the other items of a level stay;
* `AnnotateCommand.ofItems?_filter` : they alone make up the command;
* `Invocation.parse?_withoutVerbosity` : **an `annotate` command line without these arguments is the same command, at
  the verbosity that is not asked for**.
-/

namespace DefectTrail.CommandLine

/-- Whether an argument, before two dashes, only says how much is logged. -/
def isVerbosityFlag (arg : String) : Bool :=
  arg = "--verbose" || arg = "--quiet" ||
    (arg.toList.head? = some '-' && arg.toList.tail ≠ [] && arg.toList.tail.all fun c => c = 'v')

/-- The arguments without those that only say how much is logged; after two dashes all of them stay. -/
def withoutVerbosity : List String → List String
  | [] => []
  | arg :: args =>
    if arg = "--" then arg :: args
    else if isVerbosityFlag arg then withoutVerbosity args
    else arg :: withoutVerbosity args

/-! ## Flags -/

theorem eq_of_toList_eq {arg : String} {cs : List Char} (h : arg.toList = cs) (literal : String)
    (hliteral : literal.toList = cs) : arg = literal := String.toList_inj.1 (h.trans hliteral.symm)

theorem isVerbosityFlag_long {arg : String} {body : List Char} (h : arg.toList = '-' :: '-' :: body) :
    isVerbosityFlag arg = true ↔ body = "verbose".toList ∨ body = "quiet".toList := by
  have hverbose : arg = "--verbose" ↔ body = "verbose".toList := by
    rw [← String.toList_inj, h]
    simp
  have hquiet : arg = "--quiet" ↔ body = "quiet".toList := by
    rw [← String.toList_inj, h]
    simp
  simp [isVerbosityFlag, hverbose, hquiet, h]

theorem isVerbosityFlag_short {arg : String} {letter : Char} {letters : List Char}
    (h : arg.toList = '-' :: letter :: letters) (hletter : letter ≠ '-') :
    isVerbosityFlag arg = (letter :: letters).all fun c => c = 'v' := by
  have hverbose : arg ≠ "--verbose" := by
    rintro rfl
    exact hletter (List.cons.inj (List.cons.inj h).2).1.symm
  have hquiet : arg ≠ "--quiet" := by
    rintro rfl
    exact hletter (List.cons.inj (List.cons.inj h).2).1.symm
  simp [isVerbosityFlag, hverbose, hquiet, h]

/-- What is no option is no flag, and not the mark that ends the options. -/
theorem not_isVerbosityFlag_of_not_isOption {arg : String} (h : isOption arg = false) :
    isVerbosityFlag arg = false ∧ arg ≠ "--" := by
  by_cases hdash : arg = "-"
  · subst hdash
    decide
  · have hhead : arg.toList.head? ≠ some '-' := by
      intro hhead
      rw [isOption, hhead] at h
      simp [hdash] at h
    have hne (literal : String) (hliteral : literal.toList.head? = some '-') : arg ≠ literal := by
      rintro rfl
      exact hhead hliteral
    refine ⟨?_, hne "--" (by decide)⟩
    simp [isVerbosityFlag, hne "--verbose" (by decide), hne "--quiet" (by decide), hhead]

theorem isOption_eq_false {arg : String} (h : ∀ letter letters, arg.toList ≠ '-' :: letter :: letters) :
    isOption arg = false := by
  rw [isOption, Bool.and_eq_false_iff, decide_eq_false_iff_not, decide_eq_false_iff_not, not_not]
  cases hchars : arg.toList with
  | nil => exact .inl (by decide)
  | cons c cs =>
      cases cs with
      | nil =>
          by_cases hc : c = '-'
          · subst hc
            exact .inr (eq_of_toList_eq hchars "-" (by decide))
          · exact .inl fun hhead => hc (Option.some.inj hhead)
      | cons letter letters =>
          refine .inl fun hhead => h letter letters ?_
          obtain rfl := Option.some.inj hhead
          exact hchars

theorem splitLong_eq_none {body : List Char} {name : String} (h : splitLong body = (name, none)) :
    body = name.toList := by
  unfold splitLong at h
  split at h
  · cases h
  · next cs hspan =>
      rw [List.span_eq_takeWhile_dropWhile, Prod.mk.injEq] at hspan
      obtain ⟨rfl, hrest⟩ := hspan
      obtain rfl := (Prod.mk.inj h).1
      rw [String.toList_ofList, List.takeWhile_eq_self_iff.2 (List.dropWhile_eq_nil_iff.1 hrest)]

theorem splitLong_eq_some {body : List Char} {name value : String} (h : splitLong body = (name, some value)) :
    '=' ∈ body := by
  by_contra hnone
  have hspan : body.span (· ≠ '=') = (body, []) := by
    have hall : ∀ c ∈ body, decide (c ≠ '=') = true := fun c hc => decide_eq_true (ne_of_mem_of_not_mem hc hnone)
    rw [List.span_eq_takeWhile_dropWhile, List.takeWhile_eq_self_iff.2 hall, List.dropWhile_eq_nil_iff.2 hall]
  rw [splitLong, hspan] at h
  cases h

theorem ne_dashes_of_long {arg : String} {body : List Char} (h : arg.toList = '-' :: '-' :: body)
    (hbody : body = [] → False) : arg ≠ "--" := by
  rintro rfl
  exact hbody (List.cons.inj (List.cons.inj h).2).2.symm

/-! ## Items -/

/-- Whether an item only says how much is logged. -/
def Item.isVerbosity (item : Item) : Bool := item = .switch .verbose || item = .switch .quiet

theorem Switch.isVerbosity_iff {s : Switch} :
    (Item.switch s).isVerbosity = true ↔ s.name = "verbose" ∨ s.name = "quiet" := by
  cases s <;> decide

/-- A setting is no flag, whether its value is attached or comes next. -/
theorem isVerbosityFlag_setting {arg : String} {body : List Char} (h : arg.toList = '-' :: '-' :: body) {s : Setting}
    {attached : Option String} (hsplit : splitLong body = (s.name, attached)) : isVerbosityFlag arg = false := by
  rw [Bool.eq_false_iff, Ne, isVerbosityFlag_long h, not_or]
  cases attached with
  | some value =>
      have hmem := splitLong_eq_some hsplit
      constructor <;>
      · rintro rfl
        revert hmem
        decide
  | none =>
      rw [splitLong_eq_none hsplit, String.toList_inj, String.toList_inj]
      cases s <;> decide

/-- A bundle of switches asks for nothing but verbosity. -/
theorem filter_shortItems {letters : List Char} {items : List Item} (h : shortItems? letters = some items) :
    letters.all (fun c => c = 'v') = true ∧ items.filter (!·.isVerbosity) = [] := by
  induction letters generalizing items with
  | nil =>
      obtain rfl := Option.some.inj h
      exact ⟨rfl, rfl⟩
  | cons c letters ih =>
      rw [shortItems?, List.mapM_cons] at h
      obtain ⟨item, hitem, h⟩ := Option.bind_eq_some_iff.1 h
      obtain ⟨rest, hrest, h⟩ := Option.bind_eq_some_iff.1 h
      obtain rfl := Option.some.inj h
      obtain ⟨hletters, hitems⟩ := ih hrest
      split at hitem
      · next hc =>
          obtain rfl := Option.some.inj hitem
          refine ⟨?_, ?_⟩
          · rw [List.all_cons, hletters, hc]
            rfl
          · rw [List.filter_cons_of_neg (by decide), hitems]
      · cases hitem

/-! ## Levels -/

theorem withoutVerbosity_flag {arg : String} (h : isVerbosityFlag arg = true) (args : List String) :
    withoutVerbosity (arg :: args) = withoutVerbosity args := by
  have hdashes : arg ≠ "--" := by
    rintro rfl
    revert h
    decide
  rw [withoutVerbosity, if_neg hdashes, if_pos h]

theorem withoutVerbosity_kept {arg : String} (h : isVerbosityFlag arg = false) (hdashes : arg ≠ "--")
    (args : List String) : withoutVerbosity (arg :: args) = arg :: withoutVerbosity args := by
  rw [withoutVerbosity, if_neg hdashes, if_neg (by rw [h]; exact Bool.false_ne_true)]

theorem split?_word {level : Level} {arg : String} (h : ∀ letter letters, arg.toList ≠ '-' :: letter :: letters)
    (args : List String) :
    split? level (arg :: args) =
      if level.opensNext then some ([.word arg], args)
      else (split? level args).map fun p => (.word arg :: p.1, p.2) := by
  rw [split?.eq_def]
  simp only
  split
  · next hdashes => exact absurd hdashes (h '-' [])
  · next body _ hlong => exact absurd hlong (h '-' body)
  · next letter letters _ _ hshort => exact absurd hshort (h letter letters)
  · rfl

/-- Without the flags, a level has its other items. -/
theorem split?_withoutVerbosity {level : Level} {args rest : List String} {items : List Item}
    (h : split? level args = some (items, rest)) :
    split? level (withoutVerbosity args) =
      some (items.filter (!·.isVerbosity), if level.opensNext then withoutVerbosity rest else rest) := by
  fun_induction split? level args generalizing items rest with
  | case1 =>
      cases h
      cases level.opensNext <;> rfl
  | case2 | case4 | case7 | case9 | case10 => cases h
  | case3 arg args hdashes hlast =>
      cases h
      have hfilter : (args.map Item.word).filter (!·.isVerbosity) = args.map .word := by
        refine List.filter_eq_self.2 fun item hitem => ?_
        obtain ⟨w, -, rfl⟩ := List.mem_map.1 hitem
        rfl
      have hall : withoutVerbosity (arg :: args) = arg :: args :=
        if_pos (eq_of_toList_eq hdashes "--" (by decide))
      rw [hall, hfilter, if_neg hlast, split?.eq_def]
      simp only [hdashes, hlast]
      rfl
  | case5 arg args body hne hlong name attached hsplit s hswitch hattached ih =>
      obtain ⟨⟨items, rest⟩, hargs, h⟩ := Option.map_eq_some_iff.1 h
      obtain ⟨rfl, rfl⟩ := Prod.mk.inj h
      obtain rfl : attached = none := by simpa using hattached
      have hname : s.name = name := by simpa using List.find?_some hswitch
      have hflag : isVerbosityFlag arg = (Item.switch s).isVerbosity := by
        rw [Bool.eq_iff_iff, isVerbosityFlag_long hlong, Switch.isVerbosity_iff, splitLong_eq_none hsplit, hname,
          String.toList_inj, String.toList_inj]
      cases hs : (Item.switch s).isVerbosity with
      | true =>
          rw [withoutVerbosity_flag (hflag.trans hs), List.filter_cons_of_neg (by simp [hs])]
          exact ih hargs
      | false =>
          rw [withoutVerbosity_kept (hflag.trans hs) (ne_dashes_of_long hlong hne),
            List.filter_cons_of_pos (by simp [hs]), split?.eq_def]
          simp only [hlong, hsplit, hswitch, ih hargs]
          rfl
  | case6 arg body hne hlong name s hsetting hswitch value args hsplit ih =>
      obtain ⟨⟨items, rest⟩, hargs, h⟩ := Option.map_eq_some_iff.1 h
      obtain ⟨rfl, rfl⟩ := Prod.mk.inj h
      obtain rfl : s.name = name := by simpa using List.find?_some hsetting
      rw [withoutVerbosity_kept (isVerbosityFlag_setting hlong hsplit) (ne_dashes_of_long hlong hne),
        List.filter_cons_of_pos rfl, split?.eq_def]
      simp only [hlong, hsplit, hswitch, hsetting, ih hargs]
      rfl
  | case8 arg body hne hlong name s hsetting hswitch value args hoption hsplit ih =>
      obtain ⟨⟨items, rest⟩, hargs, h⟩ := Option.map_eq_some_iff.1 h
      obtain ⟨rfl, rfl⟩ := Prod.mk.inj h
      obtain rfl : s.name = name := by simpa using List.find?_some hsetting
      -- a value that is taken is no option, so that it stays with its setting
      obtain ⟨hvalue, hvaluedashes⟩ := not_isVerbosityFlag_of_not_isOption (eq_false_of_ne_true hoption)
      rw [withoutVerbosity_kept (isVerbosityFlag_setting hlong hsplit) (ne_dashes_of_long hlong hne),
        withoutVerbosity_kept hvalue hvaluedashes, List.filter_cons_of_pos rfl, split?.eq_def]
      simp only [hlong, hsplit, hswitch, hsetting, ih hargs, if_neg hoption]
      rfl
  | case11 arg args letter letters _ hletter hshort ih =>
      obtain ⟨switches, hswitches, h⟩ := Option.bind_eq_some_iff.1 h
      obtain ⟨⟨items, rest⟩, hargs, h⟩ := Option.bind_eq_some_iff.1 h
      obtain ⟨rfl, rfl⟩ := Prod.mk.inj (Option.some.inj h)
      obtain ⟨hletters, hfilter⟩ := filter_shortItems hswitches
      rw [withoutVerbosity_flag ((isVerbosityFlag_short hshort hletter).trans hletters), List.filter_append, hfilter,
        List.nil_append]
      exact ih hargs
  | case12 arg args hopens hdashes hlong hshort =>
      cases h
      obtain ⟨hflag, hne⟩ := not_isVerbosityFlag_of_not_isOption (isOption_eq_false hshort)
      rw [withoutVerbosity_kept hflag hne, split?_word hshort, if_pos hopens, if_pos hopens]
      rfl
  | case13 arg args hlast hdashes hlong hshort ih =>
      obtain ⟨⟨items, rest⟩, hargs, h⟩ := Option.map_eq_some_iff.1 h
      obtain ⟨rfl, rfl⟩ := Prod.mk.inj h
      obtain ⟨hflag, hne⟩ := not_isVerbosityFlag_of_not_isOption (isOption_eq_false hshort)
      rw [withoutVerbosity_kept hflag hne, List.filter_cons_of_pos rfl, split?_word hshort, if_neg hlast, ih hargs]
      rfl

/-! ## Commands -/

theorem filterMap_filter_isVerbosity {α : Type} {f : Item → Option α} (hverbose : f (.switch .verbose) = none)
    (hquiet : f (.switch .quiet) = none) (items : List Item) :
    (items.filter (!·.isVerbosity)).filterMap f = items.filterMap f := by
  induction items with
  | nil => rfl
  | cons item items ih =>
      cases hitem : item.isVerbosity with
      | false => rw [List.filter_cons_of_pos (by simp [hitem]), List.filterMap_cons, List.filterMap_cons, ih]
      | true =>
          have hnone : f item = none := by
            rw [Item.isVerbosity, Bool.or_eq_true, decide_eq_true_eq, decide_eq_true_eq] at hitem
            rcases hitem with rfl | rfl
            · exact hverbose
            · exact hquiet
          rw [List.filter_cons_of_neg (by simp [hitem]), List.filterMap_cons_none hnone, ih]

theorem words_filter (items : List Item) : words (items.filter (!·.isVerbosity)) = words items :=
  filterMap_filter_isVerbosity rfl rfl items

theorem verbosity?_filter (items : List Item) : verbosity? (items.filter (!·.isVerbosity)) = some ⟨0, false⟩ := by
  have hcount (s : Switch) (hs : (Item.switch s).isVerbosity = true) :
      countSwitch s (items.filter (!·.isVerbosity)) = 0 := by
    refine List.count_eq_zero.2 fun hmem => ?_
    have hkept := (List.mem_filter.1 hmem).2
    rw [hs] at hkept
    cases hkept
  rw [verbosity?, hcount .quiet rfl, hcount .verbose rfl]
  rfl

/-- The other items alone make up the command. -/
theorem AnnotateCommand.ofItems?_filter (items : List Item) :
    ofItems? (items.filter (!·.isVerbosity)) = ofItems? items := by
  have hvalues (s : Setting) : values s (items.filter (!·.isVerbosity)) = values s items :=
    filterMap_filter_isVerbosity rfl rfl items
  have hstrict : countSwitch .strictAllocationReturns (items.filter (!·.isVerbosity)) =
      countSwitch .strictAllocationReturns items := List.count_filter rfl
  simp only [ofItems?, words_filter, value?, hvalues, hstrict]

namespace Invocation

variable {v : Verbosity} {c : AnnotateCommand}

theorem parseConfig?_ne_annotate (outer : Verbosity) (args : List String) :
    parseConfig? outer args ≠ some ⟨v, .annotate c⟩ := by
  intro h
  obtain ⟨⟨items, rest⟩, -, h⟩ := Option.bind_eq_some_iff.1 h
  obtain ⟨inner, -, h⟩ := Option.bind_eq_some_iff.1 h
  have haction {command : Option String → Command} (hcommand : ∀ path, command path ≠ .annotate c)
      {outer : Verbosity} : parseAction? outer command rest ≠ some ⟨v, .annotate c⟩ := by
    intro h
    obtain ⟨⟨items, rest⟩, -, h⟩ := Option.bind_eq_some_iff.1 h
    obtain ⟨inner, -, h⟩ := Option.bind_eq_some_iff.1 h
    obtain ⟨path, -, h⟩ := Option.bind_eq_some_iff.1 h
    exact hcommand path (Invocation.mk.inj (Option.some.inj h)).2
  split at h
  · exact haction (fun _ => Command.noConfusion) h
  · exact haction (fun _ => Command.noConfusion) h
  · cases h

theorem parseAnnotate?_eq_some_iff {outer : Verbosity} {args : List String} :
    parseAnnotate? outer args = some ⟨v, .annotate c⟩ ↔
      ∃ items rest inner, split? .annotate args = some (items, rest) ∧ verbosity? items = some inner ∧
        AnnotateCommand.ofItems? items = some c ∧ v = outer.within inner := by
  constructor
  · intro h
    obtain ⟨⟨items, rest⟩, hsplit, h⟩ := Option.bind_eq_some_iff.1 h
    obtain ⟨inner, hinner, h⟩ := Option.bind_eq_some_iff.1 h
    obtain ⟨command, hcommand, h⟩ := Option.bind_eq_some_iff.1 h
    obtain ⟨rfl, hc⟩ := Invocation.mk.inj (Option.some.inj h)
    obtain rfl := Command.annotate.inj hc
    exact ⟨items, rest, inner, hsplit, hinner, hcommand, rfl⟩
  · rintro ⟨items, rest, inner, hsplit, hinner, hcommand, rfl⟩
    rw [parseAnnotate?, hsplit, Option.bind_eq_bind, Option.bind_some]
    simp only [hinner, hcommand]
    rfl

theorem parse?_eq_annotate_iff {args : List String} :
    parse? args = some ⟨v, .annotate c⟩ ↔
      ∃ items rest outer, split? .branching args = some (items, rest) ∧ verbosity? items = some outer ∧
        words items = ["annotate"] ∧ parseAnnotate? outer rest = some ⟨v, .annotate c⟩ := by
  constructor
  · intro h
    obtain ⟨⟨items, rest⟩, hsplit, h⟩ := Option.bind_eq_some_iff.1 h
    obtain ⟨outer, houter, h⟩ := Option.bind_eq_some_iff.1 h
    split at h
    · next hwords => exact ⟨items, rest, outer, hsplit, houter, hwords, h⟩
    · exact absurd h (parseConfig?_ne_annotate outer rest)
    · cases h
  · rintro ⟨items, rest, outer, hsplit, houter, hwords, h⟩
    rw [parse?, hsplit, Option.bind_eq_bind, Option.bind_some]
    simp only [houter, hwords]
    exact h

/-- **Without the flags, an `annotate` command line is the same command, at the verbosity that is not asked for.** -/
theorem parse?_withoutVerbosity {args : List String} (h : parse? args = some ⟨v, .annotate c⟩) :
    parse? (withoutVerbosity args) = some ⟨⟨0, false⟩, .annotate c⟩ := by
  obtain ⟨items, rest, outer, hsplit, -, hwords, h⟩ := parse?_eq_annotate_iff.1 h
  obtain ⟨items', rest', inner, hsplit', -, hcommand, -⟩ := parseAnnotate?_eq_some_iff.1 h
  refine parse?_eq_annotate_iff.2 ⟨_, _, _, split?_withoutVerbosity hsplit, verbosity?_filter items,
    (words_filter items).trans hwords, ?_⟩
  exact parseAnnotate?_eq_some_iff.2 ⟨_, _, _, split?_withoutVerbosity hsplit', verbosity?_filter items',
    (AnnotateCommand.ofItems?_filter items').trans hcommand, rfl⟩

end Invocation

end DefectTrail.CommandLine
