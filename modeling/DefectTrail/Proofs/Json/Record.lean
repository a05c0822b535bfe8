import DefectTrail.Json.Record
import DefectTrail.Proofs.Json.Layout
import Mathlib.Data.List.Forall2

/-!
# Reading records back

A record is written as an object with one member for each field that has a value (`Json.membersOf`). Where the names of
the fields differ and no required one is left out, the fields' values are read back from it.

* `mapM_eq_some_iff`, `mapM_eq_none_iff` : a list is read if each of its items is;
* `Json.fields?_object_membersOf` : the values of a written record;
* `Json.optional?_map`, `Json.ofArray?_map_of_mem` : fields that may be missing, and lists;
* `Json.Writable.record` : what makes a record writable.
-/

namespace DefectTrail

/-! ## Lists of readings -/

section
variable {α β : Type} {f : α → Option β}

theorem mapM_eq_some_iff {as : List α} {bs : List β} : as.mapM f = some bs ↔ as.map f = bs.map some := by
  induction as generalizing bs with
  | nil =>
      rw [List.mapM_nil, List.map_nil, eq_comm (a := ([] : List (Option β))), List.map_eq_nil_iff]
      exact ⟨fun h => (Option.some.inj h).symm, fun h => congrArg some h.symm⟩
  | cons a as ih =>
      rw [List.mapM_cons, List.map_cons]
      constructor
      · intro h
        obtain ⟨b, hb, h⟩ := Option.bind_eq_some_iff.1 h
        obtain ⟨rest, hrest, h⟩ := Option.bind_eq_some_iff.1 h
        obtain rfl := Option.some.inj h
        rw [List.map_cons, hb, ih.1 hrest]
      · intro h
        cases bs with
        | nil => cases h
        | cons b bs =>
            obtain ⟨hb, hrest⟩ := List.cons.inj h
            rw [hb, ih.2 hrest]
            rfl

theorem mapM_eq_none_iff {as : List α} : as.mapM f = none ↔ ∃ a ∈ as, f a = none := by
  induction as with
  | nil => simp
  | cons a as ih =>
      rw [List.mapM_cons, List.exists_mem_cons_iff, ← ih]
      cases f a with
      | none => simp
      | some b => cases as.mapM f <;> simp

end

namespace Json

theorem ofArray?_map_of_mem {α : Type} {read : Json → Option α} {write : α → Json} {as : List α}
    (h : ∀ a ∈ as, read (write a) = some a) : ofArray? read (.array (as.map write)) = some as := by
  rw [ofArray?, mapM_eq_some_iff, List.map_map]
  exact List.map_congr_left h

/-- What a list of readings comes from. -/
theorem exists_of_mem_of_ofArray? {α : Type} {read : Json → Option α} {v : Json} {as : List α}
    (h : ofArray? read v = some as) {a : α} (ha : a ∈ as) : ∃ w, read w = some a := by
  unfold ofArray? at h
  split at h
  · next items =>
      have hmem : some a ∈ items.map read := by
        rw [mapM_eq_some_iff.1 h]
        exact List.mem_map_of_mem ha
      obtain ⟨w, -, hw⟩ := List.mem_map.1 hmem
      exact ⟨w, hw⟩
  · cases h

/-! ## Members of a record -/

/-- The members of a record whose fields have the given values. -/
def membersOf : List Field → List (Option Json) → List (String × Json)
  | f :: fs, some v :: vs => (f.name, v) :: membersOf fs vs
  | _ :: fs, none :: vs => membersOf fs vs
  | _, _ => []

/-- The values belong to the fields one by one, and only a field that is not required has none. -/
def Suit (fields : List Field) (values : List (Option Json)) : Prop :=
  List.Forall₂ (fun f o => o = none → f.presence ≠ .required) fields values

theorem membersOf_cons (f : Field) (fs : List Field) (o : Option Json) (vs : List (Option Json)) :
    membersOf (f :: fs) (o :: vs) = optionalMember f.name id o ++ membersOf fs vs := by
  cases o <;> rfl

theorem optionalMember_map {α : Type} (name : String) (write : α → Json) (o : Option α) :
    optionalMember name id (o.map write) = optionalMember name write o := by
  cases o <;> rfl

theorem eq_of_mem_optionalMember {name : String} {o : Option Json} {m : String × Json}
    (h : m ∈ optionalMember name id o) : m.1 = name ∧ o = some m.2 := by
  cases o with
  | none => cases h
  | some v =>
      obtain rfl := List.mem_singleton.1 h
      exact ⟨rfl, rfl⟩

/-- A member of a record has the name of a field and one of the values. -/
theorem exists_of_mem_membersOf {fs : List Field} {vs : List (Option Json)} {m : String × Json}
    (h : m ∈ membersOf fs vs) : (∃ f ∈ fs, f.name = m.1) ∧ some m.2 ∈ vs := by
  induction fs generalizing vs with
  | nil => cases h
  | cons f fs ih =>
      cases vs with
      | nil => cases h
      | cons o vs =>
          rw [membersOf_cons, List.mem_append] at h
          rcases h with h | h
          · obtain ⟨hname, rfl⟩ := eq_of_mem_optionalMember h
            exact ⟨⟨f, List.mem_cons_self, hname.symm⟩, List.mem_cons_self⟩
          · obtain ⟨⟨g, hg, hname⟩, hvalue⟩ := ih h
            exact ⟨⟨g, List.mem_cons_of_mem _ hg, hname⟩, List.mem_cons_of_mem _ hvalue⟩

/-! ## Fields of a written record -/

theorem filter_optionalMember_self (name : String) (o : Option Json) :
    (optionalMember name id o).filter (·.1 == name) = optionalMember name id o :=
  List.filter_eq_self.2 fun _ hm => beq_iff_eq.2 (eq_of_mem_optionalMember hm).1

theorem filter_optionalMember_of_ne {name other : String} (h : name ≠ other) (o : Option Json) :
    (optionalMember name id o).filter (·.1 == other) = [] := by
  rw [List.filter_eq_nil_iff]
  intro m hm
  rw [(eq_of_mem_optionalMember hm).1, beq_iff_eq]
  exact h

theorem filter_membersOf_of_notMem {fs : List Field} {name : String} (h : name ∉ fs.map (·.name))
    (vs : List (Option Json)) : (membersOf fs vs).filter (·.1 == name) = [] := by
  rw [List.filter_eq_nil_iff]
  intro m hm
  obtain ⟨⟨f, hf, hname⟩, -⟩ := exists_of_mem_membersOf hm
  rw [← hname, beq_iff_eq]
  rintro rfl
  exact h (List.mem_map_of_mem hf)

theorem find?_membersOf_head {f : Field} {fs : List Field} (hf : f.name ∉ fs.map (·.name)) {o : Option Json}
    (ho : o = none → f.presence ≠ .required) (vs : List (Option Json)) :
    f.find? (membersOf (f :: fs) (o :: vs)) = some o := by
  rw [Field.find?, membersOf_cons, List.filter_append, filter_optionalMember_self, filter_membersOf_of_notMem hf,
    List.append_nil]
  cases o with
  | none => exact if_neg (ho rfl)
  | some v => rfl

theorem find?_membersOf_tail {f g : Field} (h : f.name ≠ g.name) (fs : List Field) (o : Option Json)
    (vs : List (Option Json)) : g.find? (membersOf (f :: fs) (o :: vs)) = g.find? (membersOf fs vs) := by
  rw [Field.find?, Field.find?, membersOf_cons, List.filter_append, filter_optionalMember_of_ne h, List.nil_append]

theorem map_find?_membersOf {fs : List Field} {vs : List (Option Json)} (hnames : (fs.map (·.name)).Nodup)
    (hsuit : Suit fs vs) : fs.map (·.find? (membersOf fs vs)) = vs.map some := by
  induction hsuit with
  | nil => rfl
  | @cons f o fs vs ho hsuit ih =>
      obtain ⟨hf, hnames⟩ := List.nodup_cons.1 hnames
      rw [List.map_cons, List.map_cons, find?_membersOf_head hf ho, ← ih hnames]
      refine congrArg (some o :: ·) (List.map_congr_left fun g hg => find?_membersOf_tail ?_ fs o vs)
      intro hname
      exact hf (List.mem_map.2 ⟨g, hg, hname.symm⟩)

/-- **The values of a record are read back from it.** -/
theorem fields?_object_membersOf {shape : Shape} {values : List (Option Json)}
    (hnames : (shape.fields.map (·.name)).Nodup) (hsuit : Suit shape.fields values) :
    fields? shape (.object (membersOf shape.fields values)) = some values := by
  have hknown : ¬ (shape.closed &&
      (membersOf shape.fields values).any fun m => shape.fields.all (·.name != m.1)) = true := by
    rw [Bool.and_eq_true, List.any_eq_true]
    rintro ⟨-, m, hm, hforeign⟩
    obtain ⟨⟨f, hf, hname⟩, -⟩ := exists_of_mem_membersOf hm
    have hne := List.all_eq_true.1 hforeign f hf
    rw [hname, bne_self_eq_false] at hne
    cases hne
  rw [fields?, if_neg hknown, mapM_eq_some_iff]
  exact map_find?_membersOf hnames hsuit

/-! ## Fields that may be missing -/

section
variable {α : Type} {read : Json → Option α} {write : α → Json}

theorem ofNullable?_of_ne_null {v : Json} (h : v ≠ .null) : v.ofNullable? read = (read v).map some := by
  cases v <;> first | rfl | exact absurd rfl h

theorem optional?_map {o : Option α} (hread : ∀ a ∈ o, read (write a) = some a) (hnull : ∀ a, write a ≠ .null) :
    optional? read (o.map write) = some o := by
  cases o with
  | none => rfl
  | some a =>
      rw [Option.map_some, optional?, ofNullable?_of_ne_null (hnull a), hread a rfl]
      rfl

theorem optional?_nullable {o : Option α} (hread : ∀ a ∈ o, read (write a) = some a) (hnull : ∀ a, write a ≠ .null) :
    optional? read (some (nullable write o)) = some o := by
  cases o with
  | none => rfl
  | some a =>
      rw [nullable, optional?, ofNullable?_of_ne_null (hnull a), hread a rfl]
      rfl

end

/-! ## Writable records -/

namespace Writable
variable {p : Int → Prop} {depth : Nat}

theorem record {fields : List Field} {values : List (Option Json)} (h : ∀ o ∈ values, ∀ v ∈ o, Writable p depth v) :
    Writable p (depth + 1) (.object (membersOf fields values)) :=
  .object fun m hm => h _ (exists_of_mem_membersOf hm).2 m.2 rfl

theorem map {α : Type} {write : α → Json} (o : Option α) (h : ∀ a ∈ o, Writable p depth (write a)) :
    ∀ v ∈ o.map write, Writable p depth v := by
  intro v hv
  obtain ⟨a, ha, rfl⟩ := Option.map_eq_some_iff.1 hv
  exact h a ha

theorem nullable {α : Type} {write : α → Json} {o : Option α} (h : ∀ a ∈ o, Writable p depth (write a)) :
    Writable p depth (Json.nullable write o) := by
  cases o with
  | none => exact .null
  | some a => exact h a rfl

theorem list {α : Type} {write : α → Json} {as : List α} (h : ∀ a ∈ as, Writable p depth (write a)) :
    Writable p (depth + 1) (.array (as.map write)) := by
  refine .array fun v hv => ?_
  obtain ⟨a, ha, rfl⟩ := List.mem_map.1 hv
  exact h a ha

theorem ofInt64 [AdmitsWords p] (n : Int64) : Writable p depth (ofInt64 n) := by
  refine .int (AdmitsWords.of_isWord ?_)
  have hlo := Int64.le_toInt n
  have hhi := Int64.toInt_lt n
  have hsize : UInt64.size = 2 ^ 64 := rfl
  rw [IsWord]
  omega

end Writable

end Json

end DefectTrail
