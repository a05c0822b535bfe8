import DefectTrail.Proofs.Annotation.NodeSequence

/-!
# The order of group members

The members of a group are its data sorted by line, where data of one line stay in the order given. No more than that
order is taken over from how the data are mixed.

* `eq_of_pairwise_of_filter_eq` : a sorted list is known by what it has on each line;
* `DatumGroup.pairwise_members`, `DatumGroup.filter_startLine_members` : members are sorted, and those of a line are the
  group's data of that line; `DatumGroup.members_eq_iff` : so the members are known by these data;
* `filter_item_dataNodes`, `filterMap_datum_dataNodes` : the members read off the nodes;
* `dataNodes_eq_iff` : what the nodes depend on; `dataNodes_filterMap_datum` : the data shown are shown the same again;
* `groups_are_stable_sorts` : the statement as a whole.
-/

namespace DefectTrail

/-! ## Lists sorted by line -/

section
variable {α : Type} {line : α → Int64} {xs ys : List α}

theorem mem_iff_of_filter_eq (h : ∀ l, xs.filter (line · = l) = ys.filter (line · = l)) (a : α) : a ∈ xs ↔ a ∈ ys := by
  have ha := congrArg (a ∈ ·) (h (line a))
  simpa using ha

/-- A sorted list is known by what it has on each line. -/
theorem eq_of_pairwise_of_filter_eq (hxs : xs.Pairwise fun a b => line a ≤ line b)
    (hys : ys.Pairwise fun a b => line a ≤ line b) (h : ∀ l, xs.filter (line · = l) = ys.filter (line · = l)) :
    xs = ys := by
  have hmem := mem_iff_of_filter_eq h
  induction xs generalizing ys with
  | nil =>
      rw [eq_comm, List.eq_nil_iff_forall_not_mem]
      exact fun a ha => List.not_mem_nil ((hmem a).2 ha)
  | cons x xs ih =>
      cases ys with
      | nil => exact absurd ((hmem x).1 List.mem_cons_self) List.not_mem_nil
      | cons y ys =>
          obtain ⟨hx, hxs⟩ := List.pairwise_cons.1 hxs
          obtain ⟨hy, hys⟩ := List.pairwise_cons.1 hys
          -- Each head is somewhere in the other list, so neither has a greater line than the other.
          have hline : line x = line y := by
            apply Int64.le_antisymm
            · rcases List.mem_cons.1 ((hmem y).2 List.mem_cons_self) with hyx | hyxs
              · exact Int64.le_of_eq (congrArg line hyx.symm)
              · exact hx y hyxs
            · rcases List.mem_cons.1 ((hmem x).1 List.mem_cons_self) with hxy | hxys
              · exact Int64.le_of_eq (congrArg line hxy.symm)
              · exact hy x hxys
          have hparts : ∀ l, (line x = l → x = y) ∧ xs.filter (line · = l) = ys.filter (line · = l) := by
            intro l
            have hl := h l
            simp only [List.filter_cons, decide_eq_true_eq, ← hline] at hl
            split at hl
            · next hxl => exact ⟨fun _ => (List.cons.inj hl).1, (List.cons.inj hl).2⟩
            · next hxl => exact ⟨fun hxl' => absurd hxl' hxl, hl⟩
          have htails := fun l => (hparts l).2
          rw [(hparts (line x)).1 rfl, ih hxs hys htails (mem_iff_of_filter_eq htails)]

end

/-! ## Members -/

namespace DatumGroup

variable {g : DatumGroup} {data data' : List Datum}

theorem le_startLine_trans (a b c : Datum) (hab : decide (a.startLine ≤ b.startLine) = true)
    (hbc : decide (b.startLine ≤ c.startLine) = true) : decide (a.startLine ≤ c.startLine) = true :=
  decide_eq_true (Int64.le_trans (of_decide_eq_true hab) (of_decide_eq_true hbc))

theorem le_startLine_total (a b : Datum) :
    (decide (a.startLine ≤ b.startLine) || decide (b.startLine ≤ a.startLine)) = true := by
  rw [Bool.or_eq_true, decide_eq_true_eq, decide_eq_true_eq]
  exact Int64.le_total _ _

theorem pairwise_members (g : DatumGroup) (data : List Datum) :
    (g.members data).Pairwise fun a b => a.startLine ≤ b.startLine :=
  (List.pairwise_mergeSort le_startLine_trans le_startLine_total _).imp of_decide_eq_true

/-- The data of a group on one line. -/
def onLine (g : DatumGroup) (line : Int64) (data : List Datum) : List Datum :=
  data.filter fun d => d.kind = g.datumKind ∧ d.startLine = line

theorem filter_startLine_members (g : DatumGroup) (data : List Datum) (line : Int64) :
    (g.members data).filter (·.startLine = line) = g.onLine line data := by
  have honLine : g.onLine line data = (data.filter (·.kind = g.datumKind)).filter (·.startLine = line) := by
    rw [onLine, List.filter_filter]
    exact List.filter_congr fun d _ => by rw [Bool.and_comm, Bool.decide_and]
  -- Data of one line are in order already, so the sort keeps them as they follow one another.
  have hsublist : (g.onLine line data).Sublist (g.members data) := by
    refine List.sublist_mergeSort le_startLine_trans le_startLine_total ?_ (honLine ▸ List.filter_sublist)
    refine List.pairwise_of_forall_mem_list fun a ha b hb => decide_eq_true ?_
    rw [honLine, List.mem_filter, decide_eq_true_eq] at ha hb
    exact Int64.le_of_eq (ha.2.trans hb.2.symm)
  have hfilter := hsublist.filter (·.startLine = line)
  have hidem : (g.onLine line data).filter (·.startLine = line) = g.onLine line data := by
    rw [honLine, List.filter_filter]
    simp only [Bool.and_self]
  rw [hidem] at hfilter
  refine (hfilter.eq_of_length ?_).symm
  rw [honLine, ((g.perm_members data).filter _).length_eq]

theorem onLine_append (g : DatumGroup) (line : Int64) (data data' : List Datum) :
    g.onLine line (data ++ data') = g.onLine line data ++ g.onLine line data' :=
  List.filter_append ..

theorem onLine_members (g : DatumGroup) (line : Int64) (data : List Datum) :
    g.onLine line (g.members data) = g.onLine line data := by
  rw [← g.filter_startLine_members data, onLine]
  refine List.filter_congr fun d hd => ?_
  rw [Bool.decide_and, decide_eq_true (mem_members_iff.1 hd).2, Bool.true_and]

theorem onLine_members_of_ne {g' : DatumGroup} (h : g'.datumKind ≠ g.datumKind) (line : Int64) (data : List Datum) :
    g.onLine line (g'.members data) = [] := by
  rw [onLine, List.filter_eq_nil_iff]
  intro d hd hkept
  exact h ((mem_members_iff.1 hd).2.symm.trans (of_decide_eq_true hkept).1)

/-- The members are known by the group's data on each line. -/
theorem members_eq_iff : g.members data = g.members data' ↔ ∀ line, g.onLine line data = g.onLine line data' := by
  simp only [← filter_startLine_members]
  constructor
  · intro h line
    rw [h]
  · exact eq_of_pairwise_of_filter_eq (g.pairwise_members data) (g.pairwise_members data')

end DatumGroup

/-! ## Nodes -/

section
variable (report : ReportSummary) (data : List Datum)

theorem filter_item_dataNodes {g : DatumGroup} (hg : g ∈ DatumGroup.all) :
    (dataNodes report data).filter (·.kind = g.item) = (g.members data).mapIdx (g.itemNode report) := by
  rw [filter_dataNodes report data hg (Or.inr rfl), DatumGroup.filter_item_nodes hg]

theorem filter_header_dataNodes {g : DatumGroup} (hg : g ∈ DatumGroup.all) (hsome : g.members data ≠ []) :
    (dataNodes report data).filter (·.kind = g.header) = [.plain (report.nodeId g.header) g.title g.header] := by
  have hitems : ((g.members data).mapIdx (g.itemNode report)).filter (·.kind = g.header) = [] := by
    rw [List.filter_eq_nil_iff]
    intro n hn
    obtain ⟨i, hi, rfl⟩ := List.mem_mapIdx.1 hn
    rcases List.mem_pair.1 hg with rfl | rfl <;> exact Bool.false_ne_true
  rw [filter_dataNodes report data hg (Or.inl rfl), DatumGroup.nodes_eq, if_neg hsome, List.filter_cons, hitems]
  exact if_pos (decide_eq_true rfl)

theorem filterMap_datum_mapIdx_itemNode (g : DatumGroup) (members : List Datum) :
    (members.mapIdx (g.itemNode report)).filterMap (·.datum) = members := by
  have hmap := congrArg (List.filterMap id) (g.map_datum_mapIdx_itemNode report members)
  rw [List.filterMap_map, List.filterMap_map] at hmap
  exact hmap.trans List.filterMap_some

theorem filterMap_datum_nodes (g : DatumGroup) : (g.nodes report data).filterMap (·.datum) = g.members data := by
  rw [DatumGroup.nodes_eq]
  split
  · next hnone => rw [hnone, List.filterMap_nil]
  · exact filterMap_datum_mapIdx_itemNode report g _

theorem filterMap_datum_dataNodes :
    (dataNodes report data).filterMap (·.datum) =
      DatumGroup.expansions.members data ++ DatumGroup.notes.members data := by
  rw [dataNodes, List.filterMap_append, filterMap_datum_nodes, filterMap_datum_nodes]

variable {data' : List Datum}

/-- The nodes depend on the data of each group on each line, in the order given, and on nothing else. -/
theorem dataNodes_eq_iff :
    dataNodes report data = dataNodes report data' ↔
      ∀ g ∈ DatumGroup.all, ∀ line, g.onLine line data = g.onLine line data' := by
  simp only [← DatumGroup.members_eq_iff]
  constructor
  · intro h g hg
    have hitems := congrArg (List.filter (·.kind = g.item)) h
    rw [filter_item_dataNodes report data hg, filter_item_dataNodes report data' hg] at hitems
    have hmembers := congrArg (List.filterMap (·.datum)) hitems
    rwa [filterMap_datum_mapIdx_itemNode, filterMap_datum_mapIdx_itemNode] at hmembers
  · intro h
    simp only [dataNodes, DatumGroup.nodes_eq]
    rw [h .expansions List.mem_cons_self, h .notes (List.mem_cons_of_mem _ List.mem_cons_self)]

theorem dataNodes_filterMap_datum :
    dataNodes report ((dataNodes report data).filterMap (·.datum)) = dataNodes report data := by
  rw [dataNodes_eq_iff, filterMap_datum_dataNodes]
  intro g hg line
  rw [DatumGroup.onLine_append]
  rcases List.mem_pair.1 hg with rfl | rfl
  · rw [DatumGroup.onLine_members, DatumGroup.onLine_members_of_ne (by decide), List.append_nil]
  · rw [DatumGroup.onLine_members_of_ne (by decide), DatumGroup.onLine_members, List.nil_append]

end

/-- **The members of a group are its data in a stable order by line, and all that the nodes depend on.** -/
theorem groups_are_stable_sorts (report : ReportSummary) (data : List Datum) :
    (∀ g ∈ DatumGroup.all,
      let items := (dataNodes report data).filter (·.kind = g.item)
      let shown := items.filterMap (·.datum)
      shown.Perm (data.filter (·.kind = g.datumKind)) ∧
        shown.Pairwise (fun a b => a.startLine.toInt ≤ b.startLine.toInt) ∧
        (∀ line, shown.filter (·.startLine = line) = data.filter fun d => d.kind = g.datumKind ∧ d.startLine = line) ∧
        items.length = shown.length ∧
        ∀ (k : Nat) (n : DisplayNode), items[k]? = some n → ∃ header d,
          (dataNodes report data).filter (·.kind = g.header) = [header] ∧ shown[k]? = some d ∧
            n.id = header.id ++ "_" ++ toString k ∧ n.name = d.message ∧ n.datum = some d) ∧
    (∀ data', dataNodes report data = dataNodes report data' ↔
      ∀ g ∈ DatumGroup.all, ∀ line,
        data.filter (fun d => d.kind = g.datumKind ∧ d.startLine = line) =
          data'.filter fun d => d.kind = g.datumKind ∧ d.startLine = line) ∧
    dataNodes report ((dataNodes report data).filterMap (·.datum)) = dataNodes report data := by
  refine ⟨fun g hg => ?_, fun data' => dataNodes_eq_iff report data, dataNodes_filterMap_datum report data⟩
  have hitems := filter_item_dataNodes report data hg
  have hshown := filterMap_datum_mapIdx_itemNode report g (g.members data)
  simp only [hitems, hshown]
  refine ⟨g.perm_members data, ?_, fun line => g.filter_startLine_members data line, List.length_mapIdx,
    fun k n hn => ?_⟩
  · exact (g.pairwise_members data).imp Int64.le_iff_toInt_le.1
  · rw [List.getElem?_mapIdx] at hn
    obtain ⟨d, hd, rfl⟩ := Option.map_eq_some_iff.1 hn
    have hheader := filter_header_dataNodes report data hg (List.ne_nil_of_mem (List.mem_of_getElem? hd))
    exact ⟨_, d, hheader, hd, rfl, rfl, rfl⟩

/-- Two macros of one line around a note and a kind that is not shown, and the same data with the note in front. -/
theorem groups_are_stable_sorts_interleaved :
    let data : List Datum := [.bare .expansion 3 "first", .bare .note 5 "note", .bare (.other "FIXIT") 1 "fix",
      .bare .expansion (-1) "zero", .bare .expansion 3 "second"]
    let data' : List Datum := [.bare .note 5 "note", .bare .expansion (-1) "zero", .bare .expansion 3 "first",
      .bare .expansion 3 "second"]
    DatumGroup.expansions ∈ DatumGroup.all ∧
    (((dataNodes ⟨7, "m", ""⟩ data).filter (·.kind = .expansionItem)).filterMap (·.datum)).filter (·.startLine = 3) =
      [.bare .expansion 3 "first", .bare .expansion 3 "second"] ∧
    dataNodes ⟨7, "m", ""⟩ data = dataNodes ⟨7, "m", ""⟩ data' := by
  intro data data'
  obtain ⟨hgroups, hsame, -⟩ := groups_are_stable_sorts ⟨7, "m", ""⟩ data
  obtain ⟨-, -, hline, -⟩ := hgroups .expansions List.mem_cons_self
  refine ⟨List.mem_cons_self, (hline 3).trans (by decide +kernel), (hsame data').2 fun g hg line => ?_⟩
  by_cases hthree : line = 3
  · subst hthree
    rcases List.mem_pair.1 hg with rfl | rfl <;> decide +kernel
  · have hne : 3 ≠ line := fun h => hthree h.symm
    rcases List.mem_pair.1 hg with rfl | rfl <;>
      simp [data, data', Datum.bare, DatumGroup.expansions, DatumGroup.notes, hne, List.filter_cons]

end DefectTrail
