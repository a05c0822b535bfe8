import DefectTrail.Node.Codec
import DefectTrail.Proofs.Report.Codec

/-!
# Reading annotated reports back

An annotated report is read back from what is written of it, if its numbers fit into 64-bit words and the kinds of its
data are canonical (`AnnotatedReport.IsStorable`).

* `StackMismatch.ofJson?_toJson`, `StepMarker.ofJson?_toJson`, `StepAnnotation.ofJson?_toJson`,
  `DisplayNode.ofJson?_toJson`, `AnnotatedReport.ofJson?_toJson` : each part is read back;
* `AnnotatedReport.writable_toJson` : five nestings are enough for an annotated report.
-/

namespace DefectTrail

open Json (membersOf Suit Writable IsWord)

variable {p : Int → Prop}

/-! ## Words -/

theorem Json.isWord_natCast {n : Nat} (h : n < UInt64.size) : IsWord n := by
  rw [IsWord, Int.natAbs_natCast]
  exact h

theorem Json.ofLevel?_int {n : Int} (hlo : Int64.minValue.toInt ≤ n) (hhi : n ≤ Int64.maxValue.toInt) :
    Json.ofLevel? (.int n) = some n := by
  rw [ofLevel?, ofInt64?, if_pos ⟨hlo, hhi⟩, Option.map_some, Int64.toInt_ofInt_of_le hlo]
  exact Int.lt_add_one_of_le hhi

theorem Json.isWord_of_le {n : Int} (hlo : Int64.minValue.toInt ≤ n) (hhi : n ≤ Int64.maxValue.toInt) :
    IsWord n := by
  have hmin : Int64.minValue.toInt = -9223372036854775808 := rfl
  have hmax : Int64.maxValue.toInt = 9223372036854775807 := rfl
  have hsize : UInt64.size = 18446744073709551616 := rfl
  rw [IsWord]
  omega

/-! ## Mismatches -/

namespace StackMismatch

/-- The values of the fields, as they are written. -/
def fieldValues (m : StackMismatch) : List (Option Json) :=
  [some (.ofNat m.stepIndex), some (Json.nullable Json.string m.returnedFrom),
    some (Json.nullable Json.string m.stackTop)]

theorem toJson_eq (m : StackMismatch) : m.toJson = .object (membersOf shape.fields m.fieldValues) := rfl

/-- The fields are variables here, as the bound of the first is too large to compute with. -/
theorem ofJson?_of_fields? {v index returnedFrom stackTop : Json} {m : StackMismatch}
    (hfields : v.fields? shape = some [some index, some returnedFrom, some stackTop])
    (hindex : index.ofWord? = some m.stepIndex)
    (hreturned : Json.optional? Json.ofString? (some returnedFrom) = some m.returnedFrom)
    (htop : Json.optional? Json.ofString? (some stackTop) = some m.stackTop) : ofJson? v = some m := by
  rw [ofJson?, hfields]
  simp [hindex, hreturned, htop]

theorem ofJson?_toJson {m : StackMismatch} (h : m.stepIndex < UInt64.size) : ofJson? m.toJson = some m := by
  have hfields : m.toJson.fields? shape = some m.fieldValues := by
    rw [toJson_eq]
    exact Json.fields?_object_membersOf (by decide) (by simp [Suit, shape, fieldValues])
  have hname (o : Option String) : Json.optional? Json.ofString? (some (Json.nullable Json.string o)) = some o :=
    Json.optional?_nullable (fun _ _ => rfl) fun _ => Json.noConfusion
  exact ofJson?_of_fields? hfields (Json.ofWord?_ofNat h) (hname _) (hname _)

theorem writable_toJson {m : StackMismatch} (h : p m.stepIndex) (depth : Nat) : Writable p (depth + 1) m.toJson := by
  have hname (o : Option String) : Writable p depth (Json.nullable Json.string o) := .nullable fun s _ => .string s
  rw [toJson_eq]
  refine .record ?_
  simp [fieldValues, Json.ofNat, Writable.int h, hname]

end StackMismatch

/-! ## Markers -/

namespace StepMarker

/-- The values of the fields, as they are written. -/
def fieldValues (m : StepMarker) : List (Option Json) := [some (.ofNat m.index), some (.string m.kind.wireName)]

theorem toJson_eq (m : StepMarker) : m.toJson = .object (membersOf shape.fields m.fieldValues) := rfl

theorem ofJson?_of_fields? {v index kind : Json} {m : StepMarker}
    (hfields : v.fields? shape = some [some index, some kind]) (hindex : index.ofWord? = some m.index)
    (hkind : kind.ofName?.bind MarkerKind.ofWireName? = some m.kind) : ofJson? v = some m := by
  rw [ofJson?, hfields]
  simp [hindex, hkind]

theorem ofJson?_toJson {m : StepMarker} (h : m.index < UInt64.size) : ofJson? m.toJson = some m := by
  have hfields : m.toJson.fields? shape = some m.fieldValues := by
    rw [toJson_eq]
    exact Json.fields?_object_membersOf (by decide) (by simp [Suit, shape, fieldValues])
  exact ofJson?_of_fields? hfields (Json.ofWord?_ofNat h) (MarkerKind.ofWireName?_wireName m.kind)

theorem writable_toJson {m : StepMarker} (h : p m.index) (depth : Nat) : Writable p (depth + 1) m.toJson := by
  rw [toJson_eq]
  refine .record ?_
  simp [fieldValues, Json.ofNat, Writable.int h, Writable.string]

end StepMarker

/-! ## Steps -/

namespace StepAnnotation

/-- Number and level fit into 64-bit words. -/
structure IsStorable (s : StepAnnotation) : Prop where
  index_lt : s.marker.index < UInt64.size
  le_level : Int64.minValue.toInt ≤ s.level
  level_le : s.level ≤ Int64.maxValue.toInt

/-- The values of the fields, as they are written. -/
def fieldValues (s : StepAnnotation) : List (Option Json) :=
  [some s.event.toJson, some (.string s.icon.wireName), some s.marker.toJson, some (.string s.band),
    some (.int s.level)]

theorem toJson_eq (s : StepAnnotation) : s.toJson = .object (membersOf shape.fields s.fieldValues) := rfl

theorem ofJson?_toJson {s : StepAnnotation} (h : s.IsStorable) : ofJson? s.toJson = some s := by
  have hfields : s.toJson.fields? shape = some s.fieldValues := by
    rw [toJson_eq]
    exact Json.fields?_object_membersOf (by decide) (by simp [Suit, shape, fieldValues])
  rw [ofJson?, hfields]
  simp [fieldValues, Event.ofJson?_toJson, Json.ofName?, StepIcon.ofWireName?_wireName,
    StepMarker.ofJson?_toJson h.index_lt, Json.ofString?, Json.ofLevel?_int h.le_level h.level_le]

/-- Number and level are admitted. -/
structure HasNumbers (p : Int → Prop) (s : StepAnnotation) : Prop where
  index : p s.marker.index
  level : p s.level

theorem IsStorable.hasNumbers {s : StepAnnotation} (h : s.IsStorable) : s.HasNumbers IsWord :=
  ⟨Json.isWord_natCast h.index_lt, Json.isWord_of_le h.le_level h.level_le⟩

theorem writable_toJson [Json.AdmitsWords p] {s : StepAnnotation} (h : s.HasNumbers p) (depth : Nat) :
    Writable p (depth + 2) s.toJson := by
  rw [toJson_eq]
  refine .record ?_
  simp [fieldValues, Event.writable_toJson, StepMarker.writable_toJson h.index, Writable.string, Writable.int h.level]

end StepAnnotation

/-! ## Nodes -/

namespace DisplayNode

/-- What the node carries can be read back. -/
structure IsStorable (n : DisplayNode) : Prop where
  datum : ∀ d ∈ n.datum, d.kind.IsCanonical
  step : ∀ s ∈ n.step, s.IsStorable

/-- The values of the fields, as they are written. -/
def fieldValues (n : DisplayNode) : List (Option Json) :=
  [some (.string n.id), some (.string n.name), some (.string n.kind.wireName), n.datum.map Datum.toJson,
    n.step.map StepAnnotation.toJson]

theorem toJson_eq (n : DisplayNode) : n.toJson = .object (membersOf shape.fields n.fieldValues) := by
  simp only [toJson, shape, fieldValues, Json.membersOf_cons, Json.optionalMember_map, List.append_assoc]
  simp [Json.optionalMember, membersOf]

theorem ofJson?_toJson {n : DisplayNode} (h : n.IsStorable) : ofJson? n.toJson = some n := by
  have hfields : n.toJson.fields? shape = some n.fieldValues := by
    rw [toJson_eq]
    exact Json.fields?_object_membersOf (by decide) (by simp [Suit, shape, fieldValues])
  have hdatum : Json.optional? Datum.ofJson? (n.datum.map Datum.toJson) = some n.datum :=
    Json.optional?_map (fun d hd => Datum.ofJson?_toJson (h.datum d hd)) fun _ => Json.noConfusion
  have hstep : Json.optional? StepAnnotation.ofJson? (n.step.map StepAnnotation.toJson) = some n.step :=
    Json.optional?_map (fun s hs => StepAnnotation.ofJson?_toJson (h.step s hs)) fun _ => Json.noConfusion
  rw [ofJson?, hfields]
  simp [fieldValues, Json.ofString?, Json.ofName?, NodeKind.ofWireName?_wireName, hdatum, hstep]

theorem writable_toJson [Json.AdmitsWords p] {n : DisplayNode} (h : ∀ s ∈ n.step, s.HasNumbers p) (depth : Nat) :
    Writable p (depth + 3) n.toJson := by
  have hdatum : ∀ v ∈ n.datum.map Datum.toJson, Writable p (depth + 2) v :=
    Writable.map n.datum fun d _ => d.writable_toJson (depth + 1)
  have hstep := Writable.map n.step fun s hs => StepAnnotation.writable_toJson (h s hs) depth
  rw [toJson_eq]
  refine .record fun o ho => ?_
  simp only [fieldValues, List.mem_cons, List.not_mem_nil, or_false] at ho
  rcases ho with rfl | rfl | rfl | rfl | rfl
  · exact fun v hv => Option.some.inj hv ▸ Writable.string _
  · exact fun v hv => Option.some.inj hv ▸ Writable.string _
  · exact fun v hv => Option.some.inj hv ▸ Writable.string _
  · exact hdatum
  · exact hstep

end DisplayNode

/-! ## Reports -/

namespace AnnotatedReport

/-- All that the report holds can be read back. -/
structure IsStorable (r : AnnotatedReport) : Prop where
  nodes : ∀ n ∈ r.nodes, n.IsStorable
  mismatches : ∀ m ∈ r.mismatches, m.stepIndex < UInt64.size

/-- The values of the fields, as they are written. -/
def fieldValues (r : AnnotatedReport) : List (Option Json) :=
  [some r.report.toJson, some (.array (r.nodes.map DisplayNode.toJson)),
    some (.array (r.mismatches.map StackMismatch.toJson))]

theorem toJson_eq (r : AnnotatedReport) : r.toJson = .object (membersOf shape.fields r.fieldValues) := rfl

theorem ofJson?_toJson {r : AnnotatedReport} (h : r.IsStorable) : ofJson? r.toJson = some r := by
  have hfields : r.toJson.fields? shape = some r.fieldValues := by
    rw [toJson_eq]
    exact Json.fields?_object_membersOf (by decide) (by simp [Suit, shape, fieldValues])
  have hnodes := Json.ofArray?_map_of_mem fun n hn => DisplayNode.ofJson?_toJson (h.nodes n hn)
  have hmismatches := Json.ofArray?_map_of_mem fun m hm => StackMismatch.ofJson?_toJson (h.mismatches m hm)
  rw [ofJson?, hfields]
  simp [fieldValues, ReportSummary.ofJson?_toJson, hnodes, hmismatches]

/-- All numbers that the report is annotated with are admitted. -/
structure HasNumbers (p : Int → Prop) (r : AnnotatedReport) : Prop where
  steps : ∀ n ∈ r.nodes, ∀ s ∈ n.step, s.HasNumbers p
  mismatches : ∀ m ∈ r.mismatches, p m.stepIndex

theorem IsStorable.hasNumbers {r : AnnotatedReport} (h : r.IsStorable) : r.HasNumbers IsWord :=
  ⟨fun n hn s hs => ((h.nodes n hn).step s hs).hasNumbers, fun m hm => Json.isWord_natCast (h.mismatches m hm)⟩

theorem hasNumbers_isAny (r : AnnotatedReport) : r.HasNumbers Json.IsAny :=
  ⟨fun _ _ _ _ => ⟨trivial, trivial⟩, fun _ _ => trivial⟩

theorem writable_toJson [Json.AdmitsWords p] {r : AnnotatedReport} (h : r.HasNumbers p) (depth : Nat) :
    Writable p (depth + 5) r.toJson := by
  have hnodes := Writable.list fun n hn => DisplayNode.writable_toJson (h.steps n hn) depth
  have hmismatches := Writable.list fun m hm => StackMismatch.writable_toJson (h.mismatches m hm) (depth + 2)
  rw [toJson_eq]
  refine .record ?_
  simp [fieldValues, ReportSummary.writable_toJson r.report (depth + 3), hnodes, hmismatches]

end AnnotatedReport

end DefectTrail
