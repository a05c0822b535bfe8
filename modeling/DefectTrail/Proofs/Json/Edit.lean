import DefectTrail.Proofs.Json.Record

/-!
# Edits of records and lists

What a newer writer may do to a record or a list without an older reader taking notice: the members of an object come in
another order, members are added that no field has the name of, items are added that the reader knows to pass over; and
whatever may be done to the values inside.

* `Json.RecordEdit`, `Json.ListEdit` : one such edit, given those of the values inside; `Json.FlatEdit` : the case without;
* `Json.RecordEdit.exists_fields?` : the fields keep their values, but for one whose value was edited itself;
* `Json.ListEdit.exists_ofArray?` : a list is read as before, up to what its reader passes over;
* `Json.RecordEdit.isReadable`, `Json.ListEdit.isReadable` : what was readable stays so.
-/

namespace DefectTrail.Json

/-! ## Edits -/

/-- One edit of a record; `edit` says, by the name of a field, what an edit of its value is. -/
inductive RecordEdit (shape : Shape) (edit : String → Json → Json → Prop) : Json → Json → Prop where
  /-- The members in another order. -/
  | reorder {members members' : List (String × Json)} (h : members.Perm members') :
      RecordEdit shape edit (.object members) (.object members')
  /-- One more member, which is no field. -/
  | add {before after : List (String × Json)} {name : String} {value : Json} (hname : ∀ f ∈ shape.fields, f.name ≠ name)
      (hvalue : value.isReadable = true) :
      RecordEdit shape edit (.object (before ++ after)) (.object (before ++ (name, value) :: after))
  /-- An edit of the value of a field. -/
  | member {before after : List (String × Json)} {f : Field} {value value' : Json} (hf : f ∈ shape.fields)
      (h : edit f.name value value') :
      RecordEdit shape edit (.object (before ++ (f.name, value) :: after)) (.object (before ++ (f.name, value') :: after))
  /-- The same where the record is given as an array. -/
  | position {items : List Json} {i : Nat} {f : Field} {value value' : Json} (hf : shape.fields[i]? = some f)
      (hvalue : items[i]? = some value) (h : edit f.name value value') :
      RecordEdit shape edit (.array items) (.array (items.set i value'))

/-- An edit of a record whose values are not edited themselves. -/
def FlatEdit (shape : Shape) : Json → Json → Prop := RecordEdit shape fun _ _ _ => False

/-- One edit of a list: an edit of one of its items, or one more item. -/
inductive ListEdit (edit : Json → Json → Prop) (new : Json → Prop) : Json → Json → Prop where
  | item {before after : List Json} {value value' : Json} (h : edit value value') :
      ListEdit edit new (.array (before ++ value :: after)) (.array (before ++ value' :: after))
  | insert {before after : List Json} {value : Json} (h : new value) :
      ListEdit edit new (.array (before ++ after)) (.array (before ++ value :: after))

/-! ## What stays readable -/

section
variable {shape : Shape} {v v' : Json}

theorem RecordEdit.isReadable {edit : String → Json → Json → Prop}
    (hedit : ∀ {name value value'}, edit name value value' → value.isReadable = true → value'.isReadable = true)
    (h : RecordEdit shape edit v v') (hv : v.isReadable = true) : v'.isReadable = true := by
  cases h with
  | reorder hperm => exact membersReadable_iff.2 fun m hm => membersReadable_iff.1 hv m (hperm.mem_iff.2 hm)
  | add hname hvalue =>
      have hold := List.forall_mem_append.1 (membersReadable_iff.1 hv)
      exact membersReadable_iff.2 (List.forall_mem_append.2 ⟨hold.1, List.forall_mem_cons.2 ⟨hvalue, hold.2⟩⟩)
  | member hf h =>
      obtain ⟨hbefore, hrest⟩ := List.forall_mem_append.1 (membersReadable_iff.1 hv)
      obtain ⟨hvalue, hafter⟩ := List.forall_mem_cons.1 hrest
      exact membersReadable_iff.2 (List.forall_mem_append.2 ⟨hbefore, List.forall_mem_cons.2 ⟨hedit h hvalue, hafter⟩⟩)
  | position hf hvalue h =>
      have hitems := itemsReadable_iff.1 hv
      refine itemsReadable_iff.2 fun w hw => ?_
      rcases List.mem_or_eq_of_mem_set hw with hw | rfl
      · exact hitems w hw
      · exact hedit h (hitems _ (List.mem_of_getElem? hvalue))

theorem FlatEdit.isReadable (h : FlatEdit shape v v') (hv : v.isReadable = true) : v'.isReadable = true :=
  RecordEdit.isReadable False.elim h hv

theorem ListEdit.isReadable {edit : Json → Json → Prop} {new : Json → Prop}
    (hedit : ∀ {value value'}, edit value value' → value.isReadable = true → value'.isReadable = true)
    (hnew : ∀ {value}, new value → value.isReadable = true) (h : ListEdit edit new v v') (hv : v.isReadable = true) :
    v'.isReadable = true := by
  cases h with
  | item h =>
      obtain ⟨hbefore, hrest⟩ := List.forall_mem_append.1 (itemsReadable_iff.1 hv)
      obtain ⟨hvalue, hafter⟩ := List.forall_mem_cons.1 hrest
      exact itemsReadable_iff.2 (List.forall_mem_append.2 ⟨hbefore, List.forall_mem_cons.2 ⟨hedit h hvalue, hafter⟩⟩)
  | insert h =>
      have hold := List.forall_mem_append.1 (itemsReadable_iff.1 hv)
      exact itemsReadable_iff.2 (List.forall_mem_append.2 ⟨hold.1, List.forall_mem_cons.2 ⟨hnew h, hold.2⟩⟩)

end

/-! ## Fields of an edited object -/

namespace Field

variable {f : Field} {before after : List (String × Json)} {name : String} {value : Json} {o : Option Json}

/-- A field has the value of the only member with its name, or none if it may be left out and is. -/
theorem find?_eq_some_iff {members : List (String × Json)} :
    f.find? members = some o ↔
      members.filter (·.1 == f.name) = optionalMember f.name id o ∧ (o = none → f.presence ≠ .required) := by
  unfold find?
  split
  · next hfilter =>
      rw [hfilter]
      split
      · next hrequired =>
          refine iff_of_false (Option.some_ne_none o).symm ?_
          rintro ⟨hnone, hpresence⟩
          cases o with
          | none => exact hpresence rfl hrequired
          | some v => cases hnone
      · next hpresence =>
          constructor
          · rintro ⟨⟩
            exact ⟨rfl, fun _ => hpresence⟩
          · rintro ⟨hnone, -⟩
            cases o with
            | none => rfl
            | some v => cases hnone
  · next name' v hfilter =>
      have hname : name' = f.name := by
        have hmem : (name', v) ∈ members.filter (·.1 == f.name) := hfilter ▸ List.mem_singleton_self _
        exact beq_iff_eq.1 (List.mem_filter.1 hmem).2
      rw [hfilter, hname]
      constructor
      · rintro ⟨⟩
        exact ⟨rfl, nofun⟩
      · rintro ⟨hone, -⟩
        cases o with
        | none => cases hone
        | some w =>
            cases hone
            rfl
  · next hnil hsingleton =>
      refine iff_of_false (Option.some_ne_none o).symm ?_
      rintro ⟨hfew, -⟩
      cases o with
      | none => exact hnil hfew
      | some v => exact hsingleton _ _ hfew

/-- The order of members does not matter. -/
theorem find?_of_perm {members members' : List (String × Json)} (h : members.Perm members')
    (ho : f.find? members = some o) : f.find? members' = some o := by
  obtain ⟨hfilter, hpresence⟩ := find?_eq_some_iff.1 ho
  refine find?_eq_some_iff.2 ⟨?_, hpresence⟩
  have hperm := h.filter (·.1 == f.name)
  rw [hfilter] at hperm
  cases o with
  | none => exact hperm.nil_eq.symm
  | some v => exact (List.singleton_perm.1 hperm).symm

/-- A member that has another name does not matter. -/
theorem find?_append_cons_of_ne (h : f.name ≠ name) :
    f.find? (before ++ (name, value) :: after) = f.find? (before ++ after) := by
  have hfilter : (before ++ (name, value) :: after).filter (·.1 == f.name) =
      (before ++ after).filter (·.1 == f.name) := by
    rw [List.filter_append, List.filter_append, List.filter_cons_of_neg]
    rw [beq_iff_eq]
    exact h.symm
  rw [find?, find?, hfilter]

/-- The value that is found is that of the one member with the field's name. -/
theorem find?_append_cons_self (h : f.find? (before ++ (f.name, value) :: after) = some o) :
    o = some value ∧ ∀ value', f.find? (before ++ (f.name, value') :: after) = some (some value') := by
  have hfilter (w : Json) : (before ++ (f.name, w) :: after).filter (·.1 == f.name) =
      before.filter (·.1 == f.name) ++ (f.name, w) :: after.filter (·.1 == f.name) := by
    rw [List.filter_append, List.filter_cons_of_pos (by exact beq_self_eq_true _)]
  obtain ⟨hone, -⟩ := find?_eq_some_iff.1 h
  rw [hfilter] at hone
  obtain ⟨hbefore, hafter, rfl⟩ :
      before.filter (·.1 == f.name) = [] ∧ after.filter (·.1 == f.name) = [] ∧ o = some value := by
    cases o with
    | none => cases (List.append_eq_nil_iff.1 hone).2
    | some v =>
        rcases List.append_eq_singleton_iff.1 hone with ⟨hbefore, hrest⟩ | ⟨-, hrest⟩
        · obtain ⟨hmember, hafter⟩ := List.cons.inj hrest
          exact ⟨hbefore, hafter, congrArg some (Prod.mk.inj hmember).2.symm⟩
        · cases hrest
  refine ⟨rfl, fun value' => find?_eq_some_iff.2 ⟨?_, nofun⟩⟩
  rw [hfilter, hbefore, hafter]
  rfl

end Field

section
variable {shape : Shape} {values : List (Option Json)}

theorem fields?_object (hopen : shape.closed = false) (members : List (String × Json)) :
    fields? shape (.object members) = shape.fields.mapM (·.find? members) := by
  rw [fields?, hopen, Bool.false_and, if_neg Bool.false_ne_true]

theorem fields?_object_of_find? (hopen : shape.closed = false) {members members' : List (String × Json)}
    (h : ∀ f ∈ shape.fields, ∀ o, f.find? members = some o → f.find? members' = some o)
    (hvalues : fields? shape (.object members) = some values) : fields? shape (.object members') = some values := by
  rw [fields?_object hopen, mapM_eq_some_iff] at hvalues ⊢
  rw [← hvalues]
  refine List.map_congr_left fun f hf => ?_
  have hmem : f.find? members ∈ values.map some := hvalues ▸ List.mem_map_of_mem hf
  obtain ⟨o, -, ho⟩ := List.mem_map.1 hmem
  rw [← ho, h f hf o ho.symm]

theorem Field.name_ne {fields : List Field} (hnames : (fields.map (·.name)).Nodup) {i j : Nat} (hij : i ≠ j) {f g : Field}
    (hi : fields[i]? = some f) (hj : fields[j]? = some g) : g.name ≠ f.name := by
  intro hname
  obtain ⟨hlength, -⟩ := List.getElem?_eq_some_iff.1 hi
  refine hij ((List.getElem?_inj (by rwa [List.length_map]) hnames).1 ?_)
  rw [List.getElem?_map, List.getElem?_map, hi, hj, Option.map_some, Option.map_some, hname]

/-- A new value of a member is a new value of the field that it has the name of, and of no other. -/
theorem fields?_object_member (hopen : shape.closed = false) (hnames : (shape.fields.map (·.name)).Nodup)
    {before after : List (String × Json)} {i : Nat} {f : Field} {value : Json} (hi : shape.fields[i]? = some f)
    (hvalues : fields? shape (.object (before ++ (f.name, value) :: after)) = some values) (value' : Json) :
    values[i]? = some (some value) ∧
      fields? shape (.object (before ++ (f.name, value') :: after)) = some (values.set i (some value')) := by
  rw [fields?_object hopen, mapM_eq_some_iff] at hvalues
  have hat (j : Nat) : shape.fields[j]?.map (·.find? (before ++ (f.name, value) :: after)) = values[j]?.map some := by
    rw [← List.getElem?_map, hvalues, List.getElem?_map]
  have hfound := hat i
  rw [hi] at hfound
  obtain ⟨o, ho, hfind⟩ := Option.map_eq_some_iff.1 hfound.symm
  obtain ⟨rfl, hedited⟩ := Field.find?_append_cons_self hfind.symm
  refine ⟨ho, ?_⟩
  rw [fields?_object hopen, mapM_eq_some_iff]
  apply List.ext_getElem?
  intro j
  rw [List.getElem?_map, List.getElem?_map]
  by_cases hij : i = j
  · obtain ⟨hlength, -⟩ := List.getElem?_eq_some_iff.1 ho
    rw [← hij, hi, List.getElem?_set_self hlength, Option.map_some, Option.map_some, hedited]
  · rw [List.getElem?_set_ne hij, ← hat j]
    cases hj : shape.fields[j]? with
    | none => rfl
    | some g =>
        have hne := Field.name_ne hnames hij hi hj
        rw [Option.map_some, Option.map_some, Field.find?_append_cons_of_ne hne, Field.find?_append_cons_of_ne hne]

end

/-! ## Fields of an edited array -/

section
variable {fields : List Field} {items : List Json} {values : List (Option Json)}

theorem getElem?_positional? (h : positional? fields items = some values) {i : Nat} {value : Json}
    (hvalue : items[i]? = some value) : values[i]? = some (some value) := by
  fun_induction positional? fields items generalizing values i with
  | case1 => cases hvalue
  | case2 => cases h
  | case3 f fs hf ih => cases hvalue
  | case4 => cases h
  | case5 f fs v vs ih =>
      obtain ⟨rest, hrest, rfl⟩ := Option.map_eq_some_iff.1 h
      cases i with
      | zero => exact congrArg some hvalue
      | succ i => exact ih hrest hvalue

theorem positional?_set (h : positional? fields items = some values) {i : Nat} (hi : i < items.length) (value : Json) :
    positional? fields (items.set i value) = some (values.set i (some value)) := by
  fun_induction positional? fields items generalizing values i with
  | case1 => cases hi
  | case2 => cases h
  | case3 f fs hf ih => cases hi
  | case4 => cases h
  | case5 f fs v vs ih =>
      obtain ⟨rest, hrest, rfl⟩ := Option.map_eq_some_iff.1 h
      cases i with
      | zero => rw [List.set_cons_zero, List.set_cons_zero, positional?, hrest, Option.map_some]
      | succ i =>
          rw [List.set_cons_succ, List.set_cons_succ, positional?, ih hrest (Nat.lt_of_succ_lt_succ hi), Option.map_some]

end

/-! ## Fields of an edited record -/

/-- The values of a record's fields after an edit of one of them. -/
def FieldEdited (shape : Shape) (edit : String → Json → Json → Prop) (values values' : List (Option Json)) : Prop :=
  ∃ i f value value', shape.fields[i]? = some f ∧ edit f.name value value' ∧ values[i]? = some (some value) ∧
    values' = values.set i (some value')

/-- After an edit, the fields have the values that they had, but for one whose value was edited itself. -/
theorem RecordEdit.exists_fields? {shape : Shape} {edit : String → Json → Json → Prop} {v v' : Json}
    {values : List (Option Json)} (h : RecordEdit shape edit v v') (hopen : shape.closed = false)
    (hnames : (shape.fields.map (·.name)).Nodup) (hvalues : fields? shape v = some values) :
    ∃ values', fields? shape v' = some values' ∧ (values' = values ∨ FieldEdited shape edit values values') := by
  cases h with
  | reorder hperm =>
      exact ⟨values, fields?_object_of_find? hopen (fun f _ o => Field.find?_of_perm hperm) hvalues, Or.inl rfl⟩
  | add hname hvalue =>
      refine ⟨values, fields?_object_of_find? hopen (fun f hf o ho => ?_) hvalues, Or.inl rfl⟩
      rw [Field.find?_append_cons_of_ne (hname f hf), ho]
  | member hf h =>
      obtain ⟨i, hi⟩ := List.getElem?_of_mem hf
      obtain ⟨hvalue, hedited⟩ := fields?_object_member hopen hnames hi hvalues _
      exact ⟨_, hedited, Or.inr ⟨i, _, _, _, hi, h, hvalue, rfl⟩⟩
  | position hf hvalue h =>
      obtain ⟨hi, -⟩ := List.getElem?_eq_some_iff.1 hvalue
      exact ⟨_, positional?_set hvalues hi _, Or.inr ⟨_, _, _, _, hf, h, getElem?_positional? hvalues hvalue, rfl⟩⟩

/-- Where values are never edited themselves, what is made of the fields stays the same. -/
theorem FlatEdit.bind_fields? {α : Type} {shape : Shape} {v v' : Json} {make : List (Option Json) → Option α} {a : α}
    (h : FlatEdit shape v v') (hopen : shape.closed = false) (hnames : (shape.fields.map (·.name)).Nodup)
    (ha : (fields? shape v).bind make = some a) : (fields? shape v').bind make = some a := by
  obtain ⟨values, hvalues, hmake⟩ := Option.bind_eq_some_iff.1 ha
  obtain ⟨values', hvalues', rfl | ⟨-, -, -, -, -, hnone, -⟩⟩ := h.exists_fields? hopen hnames hvalues
  · rw [hvalues', Option.bind_some, hmake]
  · exact hnone.elim

/-! ## Lists -/

/-- A list is read after an edit, too, and shows the same; `shown` says what an item shows, if it is not passed over. -/
theorem ListEdit.exists_ofArray? {α β : Type} {read : Json → Option α} (shown : α → Option β)
    {edit : Json → Json → Prop} {new : Json → Prop}
    (hedit : ∀ {value value' a}, edit value value' → read value = some a →
      ∃ a', read value' = some a' ∧ shown a' = shown a)
    (hnew : ∀ {value}, new value → ∃ a, read value = some a ∧ shown a = none) {v v' : Json}
    (h : ListEdit edit new v v') {as : List α} (has : ofArray? read v = some as) :
    ∃ as', ofArray? read v' = some as' ∧ as'.filterMap shown = as.filterMap shown := by
  cases h with
  | @item before after value value' h =>
      rw [ofArray?, mapM_eq_some_iff, List.map_append, eq_comm, List.map_eq_append_iff] at has
      obtain ⟨first, rest, rfl, hfirst, hrest⟩ := has
      rw [List.map_cons, List.map_eq_cons_iff] at hrest
      obtain ⟨a, last, rfl, ha, hlast⟩ := hrest
      obtain ⟨a', ha', hshown⟩ := hedit h ha.symm
      refine ⟨first ++ a' :: last, ?_, ?_⟩
      · rw [ofArray?, mapM_eq_some_iff, List.map_append, List.map_append, List.map_cons, List.map_cons, ha', hfirst, hlast]
      · rw [List.filterMap_append, List.filterMap_append, List.filterMap_cons, List.filterMap_cons, hshown]
  | @insert before after value h =>
      rw [ofArray?, mapM_eq_some_iff, List.map_append, eq_comm, List.map_eq_append_iff] at has
      obtain ⟨first, last, rfl, hfirst, hlast⟩ := has
      obtain ⟨a, ha, hshown⟩ := hnew h
      refine ⟨first ++ a :: last, ?_, ?_⟩
      · rw [ofArray?, mapM_eq_some_iff, List.map_append, List.map_append, List.map_cons, List.map_cons, ha, hfirst, hlast]
      · rw [List.filterMap_append, List.filterMap_append, List.filterMap_cons, hshown]

end DefectTrail.Json
