import DefectTrail.Proofs.FileTree.Tree

/-!
# Trees with one file rewritten

The names that a path leads to (`Path.names`) are its parts without those that change nothing, and without those that
two dots take back. They say which file of a tree is rewritten (`Disk.rewrite`): all paths that lead to it give the new
text, and nothing else changes.

* `Entry.map_descend?_put` : what names lead to after a file has been put in the place of another;
* `Entry.SameNames` : trees in which the same names lead to entries of a kind, and so do the same paths
  (`Entry.isSome_follow?_eq`);
* `Entry.Leads` : the names that a chain of directories stands for, `Entry.Leads.follow?` : those of a path that is
  followed;
* `Disk.exists?_rewrite`, `Disk.read?_rewrite` : **what there is, and what is read, in a tree with one file rewritten**.
-/

namespace DefectTrail

namespace Path

/-- The names after one more part. -/
def namesAfter (names : List Path) (part : Path) : List Path :=
  if part = "" ∨ part = "." then names else if part = ".." then names.dropLast else names ++ [part]

/-- The names that a path leads to, from the root. -/
def names (path : Path) : List Path := (parts path).foldl namesAfter []

end Path

namespace Entry

/-! ## Names from an entry -/

theorem descend?_append (here : Entry) (names more : List Path) :
    here.descend? (names ++ more) = (here.descend? names).bind (·.descend? more) := by
  induction names generalizing here with
  | nil => rfl
  | cons name names ih =>
      rw [List.cons_append, descend?, descend?, Option.bind_assoc]
      exact Option.bind_congr fun entry _ => ih entry

theorem descend?_singleton (here : Entry) (name : Path) : here.descend? [name] = here.child? name := by
  rw [descend?]
  cases here.child? name <;> rfl

/-- The text of a file, as far as it has one; a directory has no content. -/
def content? : Entry → Option (Option String)
  | file text | special text => some text
  | directory _ | locked => none

/-- What following a path asks of an entry. -/
def kind (here : Entry) : Bool × Bool := (here.isDirectory, here.isSearched)

theorem kind_of_content? {here : Entry} {text : Option String} (h : here.content? = some text) :
    here.kind = (false, false) := by
  cases here with
  | file _ | special _ => rfl
  | directory _ | locked => cases h

/-- Where a file is put in the place of another, it is found there and all else stays, as far as a view of entries does
not look into directories. -/
theorem map_descend?_put {α : Type} {view : Entry → α}
    (hview : ∀ entries entries', view (.directory entries) = view (.directory entries')) {root old : Entry}
    {place : List Path} (h : root.descend? place = some old) {text : Option String} (hold : old.content? = some text)
    (new : Option String) (names : List Path) :
    ((put (.file new) place root).descend? names).map view =
      if names = place then some (view (.file new)) else (root.descend? names).map view := by
  induction place generalizing root names with
  | nil =>
      obtain rfl := Option.some.inj h
      cases names with
      | nil => rfl
      | cons name names =>
          cases root with
          | file _ | special _ => rfl
          | directory _ | locked => cases hold
  | cons name place ih =>
      obtain ⟨entries, next, rfl, hnext, h⟩ := descend?_cons_eq_some_iff.1 h
      have hput : put (.file new) (name :: place) (.directory entries) =
          .directory (set name (put (.file new) place next) entries) := by
        rw [put, hnext]
        rfl
      rw [hput]
      cases names with
      | nil => exact congrArg some (hview _ _)
      | cons other names =>
          rw [descend?, descend?, child?, child?]
          by_cases hname : other = name
          · rw [hname, lookup_set_self, hnext, Option.bind_some, Option.bind_some, ih h]
            simp only [List.cons.injEq, true_and]
          · rw [lookup_set_of_ne hname, if_neg]
            exact fun h => hname (List.cons.inj h).1

/-! ## Paths in trees of the same names -/

/-- The same names lead to entries of the same kind. -/
def SameNames (here there : Entry) : Prop :=
  ∀ names, (here.descend? names).map kind = (there.descend? names).map kind

theorem SameNames.isDirectory_eq {here there : Entry} (h : SameNames here there) :
    here.isDirectory = there.isDirectory := congrArg Prod.fst (Option.some.inj (h []))

theorem SameNames.isSearched_eq {here there : Entry} (h : SameNames here there) :
    here.isSearched = there.isSearched := congrArg Prod.snd (Option.some.inj (h []))

theorem SameNames.child? {here there : Entry} (h : SameNames here there) (name : Path) :
    Option.Rel SameNames (here.child? name) (there.child? name) := by
  have hnames (names : List Path) : ((here.child? name).bind (·.descend? names)).map kind =
      ((there.child? name).bind (·.descend? names)).map kind := h (name :: names)
  generalize here.child? name = o, there.child? name = o' at hnames ⊢
  cases o with
  | none =>
      cases o' with
      | none => exact .none
      | some entry' => cases hnames []
  | some entry =>
      cases o' with
      | none => cases hnames []
      | some entry' => exact .some hnames

theorem sameNames_put {root old : Entry} {place : List Path} (h : root.descend? place = some old)
    {text : Option String} (hold : old.content? = some text) (new : Option String) :
    SameNames root (put (.file new) place root) := by
  intro names
  rw [map_descend?_put (fun _ _ => rfl) h hold]
  split
  · next hplace =>
      rw [hplace, h, Option.map_some, kind_of_content? hold]
      rfl
  · rfl

/-- Paths can be followed in both trees or in none. -/
theorem isSome_follow?_eq {chain other : List Entry} (h : List.Forall₂ SameNames chain other) (parts : List Path) :
    (follow? other parts).isSome = (follow? chain parts).isSome := by
  fun_induction follow? chain parts generalizing other with
  | case1 =>
      cases h
      rw [follow?]
  | case2 chain hne =>
      cases h with
      | nil => exact absurd rfl hne
      | cons => rfl
  | case3 here above parts hdirectory ih =>
      cases h with
      | cons hhere habove =>
          rw [follow?, if_pos rfl, ← hhere.isDirectory_eq, if_pos hdirectory]
          exact ih (.cons hhere habove)
  | case4 here above parts hfile =>
      cases h with
      | cons hhere habove =>
          rw [follow?, if_pos rfl, ← hhere.isDirectory_eq, if_neg hfile]
  | case5 here above part parts hempty hclosed =>
      cases h with
      | cons hhere habove =>
          rw [follow?, if_neg hempty, ← hhere.isSearched_eq, if_pos hclosed]
  | case6 here above parts hsearched hempty ih =>
      cases h with
      | cons hhere habove =>
          rw [follow?, if_neg hempty, ← hhere.isSearched_eq, if_neg hsearched, if_pos rfl]
          exact ih (.cons hhere habove)
  | case7 here above parts hsearched hempty hdot ih =>
      cases h with
      | cons hhere habove =>
          rw [follow?, if_neg hempty, ← hhere.isSearched_eq, if_neg hsearched, if_neg hdot, if_pos rfl]
          cases habove with
          | nil => exact ih (.cons hhere .nil)
          | cons hnext hrest => exact ih (.cons hnext hrest)
  | case8 here above part parts hempty hsearched hdot hdots ih =>
      cases h with
      | @cons _ there _ above' hhere habove =>
          rw [follow?, if_neg hempty, ← hhere.isSearched_eq, if_neg hsearched, if_neg hdot, if_neg hdots]
          have hchild := hhere.child? part
          generalize here.child? part = o, there.child? part = o' at hchild ⊢
          cases hchild with
          | none => rfl
          | some hsame => exact ih _ (.cons hsame (.cons hhere habove))

/-! ## The names of a path -/

/-- The chain of directories that names lead through, from the innermost to the root. -/
inductive Leads (root : Entry) : List Path → List Entry → Prop where
  | root : Leads root [] [root]
  | child {names : List Path} {name : Path} {here entry : Entry} {above : List Entry}
      (h : Leads root names (here :: above)) (hentry : here.child? name = some entry) :
      Leads root (names ++ [name]) (entry :: here :: above)

theorem Leads.head?_eq {root : Entry} {names : List Path} {chain : List Entry} (h : Leads root names chain) :
    chain.head? = root.descend? names := by
  induction h with
  | root => rfl
  | @child names name here entry above h hentry ih =>
      rw [descend?_append, ← ih, List.head?_cons, List.head?_cons, Option.bind_some, descend?_singleton, hentry]

/-- Where a chain is followed along the parts of a path, the path's names lead. -/
theorem Leads.follow? {root : Entry} {names : List Path} {chain chain' : List Entry} {parts : List Path}
    (h : Leads root names chain) (hfollow : Entry.follow? chain parts = some chain') :
    Leads root (parts.foldl Path.namesAfter names) chain' := by
  fun_induction Entry.follow? chain parts generalizing names with
  | case1 => cases hfollow
  | case2 => exact Option.some.inj hfollow ▸ h
  | case3 here above parts hdirectory ih =>
      rw [List.foldl_cons, Path.namesAfter, if_pos (Or.inl rfl)]
      exact ih h hfollow
  | case4 => cases hfollow
  | case5 => cases hfollow
  | case6 here above parts hsearched hempty ih =>
      rw [List.foldl_cons, Path.namesAfter, if_pos (Or.inr rfl)]
      exact ih h hfollow
  | case7 here above parts hsearched hempty hdot ih =>
      rw [List.foldl_cons, Path.namesAfter, if_neg (not_or.2 ⟨hempty, hdot⟩), if_pos rfl]
      refine ih ?_ hfollow
      cases h with
      | root => exact .root
      | child h hentry =>
          rw [List.dropLast_concat]
          exact h
  | case8 here above part parts hempty hsearched hdot hdots ih =>
      obtain ⟨entry, hentry, hfollow⟩ := Option.bind_eq_some_iff.1 hfollow
      rw [List.foldl_cons, Path.namesAfter, if_neg (not_or.2 ⟨hempty, hdot⟩), if_neg hdots]
      exact ih entry (.child h hentry) hfollow

end Entry

/-! ## Disks -/

namespace Disk

variable {disk : Disk} {path : Path} {old : String}

/-- The names that a path leads to, as it is seen from the working directory. -/
def names (disk : Disk) (path : Path) : List Path := Path.names (Path.resolve disk.workingDirectory path)

/-- The disk with another text in the file that a path names. -/
def rewrite (disk : Disk) (path : Path) (text : String) : Disk :=
  { disk with root := Entry.put (.file (some text)) (disk.names path) disk.root }

/-- A path that names an entry can be followed, and its names lead to that entry. -/
theorem entryAt?_eq (disk : Disk) (path : Path) :
    disk.entryAt? path =
      if path = "" ∨ Path.isTooLong path then none
      else if (Entry.follow? [disk.root] (Path.parts (Path.resolve disk.workingDirectory path))).isSome then
        disk.root.descend? (disk.names path)
      else none := by
  rw [entryAt?]
  split
  · rfl
  · cases hfollow : Entry.follow? [disk.root] (Path.parts (Path.resolve disk.workingDirectory path)) with
    | none => rfl
    | some chain => exact (Entry.Leads.root.follow? hfollow).head?_eq

theorem exists_descend?_of_read? (h : disk.read? path = some old) :
    ∃ entry, disk.root.descend? (disk.names path) = some entry ∧ entry.content? = some (some old) := by
  have hdescend {entry : Entry} (hentry : disk.entryAt? path = some entry) :
      disk.root.descend? (disk.names path) = some entry := by
    obtain ⟨-, chain, hchain, hhead⟩ := exists_follow? hentry
    rw [← hhead]
    exact (Entry.Leads.root.follow? hchain).head?_eq.symm
  unfold read? at h
  split at h
  · next hentry => exact ⟨_, hdescend hentry, congrArg some h⟩
  · next hentry => exact ⟨_, hdescend hentry, congrArg some h⟩
  · cases h

/-- **A rewritten file gives its new text wherever it is named, and all else stays.** -/
theorem map_content?_entryAt?_rewrite (h : disk.read? path = some old) (text : String) (other : Path) :
    (Disk.entryAt? (disk.rewrite path text) other).map Entry.content? =
      if disk.names other = disk.names path then (disk.entryAt? other).map fun _ => some (some text)
      else (disk.entryAt? other).map Entry.content? := by
  obtain ⟨entry, hplace, hcontent⟩ := exists_descend?_of_read? h
  have hfollow := Entry.isSome_follow?_eq (.cons (Entry.sameNames_put hplace hcontent (some text)) .nil)
    (Path.parts (Path.resolve disk.workingDirectory other))
  have hnames : (disk.rewrite path text).names other = disk.names other := rfl
  rw [entryAt?_eq, entryAt?_eq, hnames, rewrite, hfollow]
  split
  · split <;> rfl
  · split
    · rw [Entry.map_descend?_put (fun _ _ => rfl) hplace hcontent]
      split
      · next hsame =>
          rw [hsame, hplace, Option.map_some]
          rfl
      · rfl
    · split <;> rfl

theorem exists?_rewrite (h : disk.read? path = some old) (text : String) (other : Path) :
    (disk.rewrite path text).exists? other = disk.exists? other := by
  have hcontent := congrArg Option.isSome (map_content?_entryAt?_rewrite h text other)
  rw [Option.isSome_map] at hcontent
  rw [exists?, hcontent]
  split <;> rw [Option.isSome_map, exists?]

theorem read?_eq (disk : Disk) (path : Path) :
    disk.read? path = ((disk.entryAt? path).map Entry.content?).join.join := by
  rw [read?]
  cases disk.entryAt? path with
  | none => rfl
  | some entry => cases entry <;> rfl

theorem read?_rewrite (h : disk.read? path = some old) (text : String) :
    (disk.rewrite path text).read? path = some text := by
  rw [read?_eq, map_content?_entryAt?_rewrite h, if_pos rfl]
  rw [read?_eq] at h
  cases hentry : disk.entryAt? path with
  | none =>
      rw [hentry] at h
      cases h
  | some entry => rfl

end Disk

end DefectTrail
