import DefectTrail.Proofs.Json.Record
import DefectTrail.Report.Codec

/-!
# Reading reports back

Each part of a bundle is written as a record of its field values, and read back from it. A datum is read back if its
kind is not a known one in disguise (`DatumKind.IsCanonical`), which holds of every kind that was read.

* `DatumKind.ofJson?_eq_some_iff` : a kind is read from its name and written as the same name;
* `ReportSummary.ofJson?_toJson`, `Datum.ofJson?_toJson`, `Event.ofJson?_toJson`, `Details.ofJson?_toJson`,
  `Bundle.ofJson?_toJson` : each part is read back;
* `Details.ofJson?_eq_some_iff`, `Bundle.ofJson?_eq_some_iff` : what details and bundles are read from;
* `Bundle.isCanonical_of_ofJson?` : a bundle that was read has canonical kinds;
* `Bundle.writable_toJson` : four nestings are enough for a bundle.
-/

namespace DefectTrail

open Json (membersOf Suit Writable)

variable {p : Int → Prop} [Json.AdmitsWords p]

/-! ## Summaries -/

namespace ReportSummary

/-- The values of the fields, as they are written. -/
def fieldValues (r : ReportSummary) : List (Option Json) :=
  [some (.ofInt64 r.reportId), some (.string r.checkerMsg), some (.string r.checkerId)]

theorem toJson_eq (r : ReportSummary) : r.toJson = .object (membersOf shape.fields r.fieldValues) := rfl

theorem ofJson?_toJson (r : ReportSummary) : ofJson? r.toJson = some r := by
  have hfields : r.toJson.fields? shape = some r.fieldValues := by
    rw [toJson_eq]
    exact Json.fields?_object_membersOf (by decide) (by simp [Suit, shape, fieldValues])
  rw [ofJson?, hfields]
  simp [fieldValues, Json.ofString?, Json.defaulted?]

theorem writable_toJson (r : ReportSummary) (depth : Nat) : Writable p (depth + 1) r.toJson := by
  rw [toJson_eq]
  refine .record ?_
  simp [fieldValues, Writable.ofInt64, Writable.string]

end ReportSummary

/-! ## Kinds of data -/

namespace DatumKind

/-- The kind is the one that its name in documents stands for. -/
def IsCanonical (k : DatumKind) : Prop := ofWireName k.wireName = k

theorem isCanonical_ofWireName (name : String) : (ofWireName name).IsCanonical := by
  rw [IsCanonical, wireName_ofWireName]

theorem ofJson?_string (name : String) : ofJson? (.string name) = some (ofWireName name) := rfl

/-- A kind is read from its name, whatever that is, and from nothing else. -/
theorem ofJson?_eq_some_iff {v : Json} {k : DatumKind} : ofJson? v = some k ↔ k.IsCanonical ∧ v = k.toJson := by
  constructor
  · intro h
    obtain ⟨name, hname, rfl⟩ := Option.map_eq_some_iff.1 h
    have hv : v = .string name := by
      cases v <;> cases hname
      rfl
    exact ⟨isCanonical_ofWireName name, by rw [hv, toJson, wireName_ofWireName]⟩
  · rintro ⟨hk, rfl⟩
    rw [toJson, ofJson?_string, hk]

end DatumKind

/-! ## Data -/

namespace Datum

/-- The values of the fields, as they are written. -/
def fieldValues (d : Datum) : List (Option Json) :=
  [some d.kind.toJson, some (.ofInt64 d.startLine), some (.string d.message), d.filePath.map .string,
    d.startCol.map .ofInt64, d.endLine.map .ofInt64, d.endCol.map .ofInt64]

theorem toJson_eq (d : Datum) : d.toJson = .object (membersOf shape.fields d.fieldValues) := by
  simp only [toJson, shape, fieldValues, Json.membersOf_cons, Json.optionalMember_map, List.append_assoc]
  simp [Json.optionalMember, membersOf]

theorem fields?_toJson (d : Datum) : d.toJson.fields? shape = some d.fieldValues := by
  rw [toJson_eq]
  exact Json.fields?_object_membersOf (by decide) (by simp [Suit, shape, fieldValues])

theorem ofJson?_toJson {d : Datum} (h : d.kind.IsCanonical) : ofJson? d.toJson = some d := by
  have hkind : DatumKind.ofJson? d.kind.toJson = some d.kind := DatumKind.ofJson?_eq_some_iff.2 ⟨h, rfl⟩
  have htext : Json.optional? Json.ofString? (d.filePath.map .string) = some d.filePath :=
    Json.optional?_map (fun _ _ => rfl) fun _ => Json.noConfusion
  have hword (o : Option Int64) : Json.optional? Json.ofInt64? (o.map .ofInt64) = some o :=
    Json.optional?_map (fun n _ => Json.ofInt64?_ofInt64 n) fun _ => Json.noConfusion
  rw [ofJson?, fields?_toJson]
  simp [fieldValues, hkind, htext, hword, Json.ofString?]

theorem writable_toJson (d : Datum) (depth : Nat) : Writable p (depth + 1) d.toJson := by
  rw [toJson_eq]
  refine .record ?_
  simp [fieldValues, Writable.ofInt64, Writable.string, DatumKind.toJson]

/-- The first field of a datum that was read is its kind. -/
theorem exists_kind_of_ofJson? {v : Json} {d : Datum} (h : ofJson? v = some d) :
    ∃ kind rest, v.fields? shape = some (some kind :: rest) ∧ DatumKind.ofJson? kind = some d.kind := by
  obtain ⟨values, hvalues, h⟩ := Option.bind_eq_some_iff.1 h
  split at h
  · next kind startLine message filePath startCol endLine endCol =>
      obtain ⟨k, hk, h⟩ := Option.bind_eq_some_iff.1 h
      obtain ⟨line, hline, h⟩ := Option.bind_eq_some_iff.1 h
      obtain ⟨text, htext, h⟩ := Option.bind_eq_some_iff.1 h
      obtain ⟨path, hpath, h⟩ := Option.bind_eq_some_iff.1 h
      obtain ⟨col, hcol, h⟩ := Option.bind_eq_some_iff.1 h
      obtain ⟨line', hline', h⟩ := Option.bind_eq_some_iff.1 h
      obtain ⟨col', hcol', h⟩ := Option.bind_eq_some_iff.1 h
      obtain rfl := Option.some.inj h
      exact ⟨kind, _, hvalues, hk⟩
  · cases h

end Datum

/-! ## Events -/

namespace Event

/-- The values of the fields, as they are written. -/
def fieldValues (e : Event) : List (Option Json) :=
  [some (.string e.msg), e.startLine.map .ofInt64, e.startCol.map .ofInt64, e.endLine.map .ofInt64,
    e.endCol.map .ofInt64, e.fileId.map .ofInt64]

theorem toJson_eq (e : Event) : e.toJson = .object (membersOf shape.fields e.fieldValues) := by
  simp only [toJson, shape, fieldValues, Json.membersOf_cons, Json.optionalMember_map, List.append_assoc]
  simp [Json.optionalMember, membersOf]

theorem ofJson?_toJson (e : Event) : ofJson? e.toJson = some e := by
  have hfields : e.toJson.fields? shape = some e.fieldValues := by
    rw [toJson_eq]
    exact Json.fields?_object_membersOf (by decide) (by simp [Suit, shape, fieldValues])
  have hword (o : Option Int64) : Json.optional? Json.ofInt64? (o.map .ofInt64) = some o :=
    Json.optional?_map (fun n _ => Json.ofInt64?_ofInt64 n) fun _ => Json.noConfusion
  rw [ofJson?, hfields]
  simp [fieldValues, hword, Json.ofString?]

theorem writable_toJson (e : Event) (depth : Nat) : Writable p (depth + 1) e.toJson := by
  rw [toJson_eq]
  refine .record ?_
  simp [fieldValues, Writable.ofInt64, Writable.string]

end Event

/-! ## Details -/

namespace Details

/-- The values of the fields, as they are written. -/
def fieldValues (d : Details) : List (Option Json) :=
  [some (.array (d.extendedData.map Datum.toJson)), some (.array (d.pathEvents.map Event.toJson))]

theorem toJson_eq (d : Details) : d.toJson = .object (membersOf shape.fields d.fieldValues) := rfl

theorem ofJson?_toJson {d : Details} (h : ∀ datum ∈ d.extendedData, datum.kind.IsCanonical) :
    ofJson? d.toJson = some d := by
  have hfields : d.toJson.fields? shape = some d.fieldValues := by
    rw [toJson_eq]
    exact Json.fields?_object_membersOf (by decide) (by simp [Suit, shape, fieldValues])
  have hdata := Json.ofArray?_map_of_mem fun datum hdatum => Datum.ofJson?_toJson (h datum hdatum)
  have hevents : Json.ofArray? Event.ofJson? (.array (d.pathEvents.map Event.toJson)) = some d.pathEvents :=
    Json.ofArray?_map_of_mem fun event _ => Event.ofJson?_toJson event
  rw [ofJson?, hfields]
  simp [fieldValues, Json.defaulted?, hdata, hevents]

theorem writable_toJson (d : Details) (depth : Nat) : Writable p (depth + 3) d.toJson := by
  have hdata : Writable p (depth + 2) (.array (d.extendedData.map Datum.toJson)) :=
    Writable.list fun datum _ => datum.writable_toJson depth
  have hevents : Writable p (depth + 2) (.array (d.pathEvents.map Event.toJson)) :=
    Writable.list fun event _ => event.writable_toJson depth
  rw [toJson_eq]
  refine .record ?_
  simp [fieldValues, hdata, hevents]

/-- Details are read if each list that is given is. -/
theorem ofJson?_eq_some_iff {v : Json} {d : Details} :
    ofJson? v = some d ↔ ∃ extendedData pathEvents, v.fields? shape = some [extendedData, pathEvents] ∧
      Json.defaulted? [] (Json.ofArray? Datum.ofJson?) extendedData = some d.extendedData ∧
      Json.defaulted? [] (Json.ofArray? Event.ofJson?) pathEvents = some d.pathEvents := by
  constructor
  · intro h
    obtain ⟨values, hvalues, h⟩ := Option.bind_eq_some_iff.1 h
    split at h
    · next extendedData pathEvents =>
        obtain ⟨data, hdata, h⟩ := Option.bind_eq_some_iff.1 h
        obtain ⟨events, hevents, h⟩ := Option.bind_eq_some_iff.1 h
        obtain rfl := Option.some.inj h
        exact ⟨extendedData, pathEvents, hvalues, hdata, hevents⟩
    · cases h
  · rintro ⟨extendedData, pathEvents, hvalues, hdata, hevents⟩
    rw [ofJson?, hvalues]
    simp [hdata, hevents]

/-- The kinds of data that was read are canonical. -/
theorem isCanonical_of_ofJson? {v : Json} {d : Details} (h : ofJson? v = some d) :
    ∀ datum ∈ d.extendedData, datum.kind.IsCanonical := by
  obtain ⟨extendedData, pathEvents, -, hdata, -⟩ := ofJson?_eq_some_iff.1 h
  intro datum hdatum
  cases extendedData with
  | none =>
      rw [← Option.some.inj hdata] at hdatum
      cases hdatum
  | some items =>
      obtain ⟨w, hw⟩ := Json.exists_of_mem_of_ofArray? hdata hdatum
      obtain ⟨kind, rest, -, hkind⟩ := Datum.exists_kind_of_ofJson? hw
      exact (DatumKind.ofJson?_eq_some_iff.1 hkind).1

end Details

/-! ## Bundles -/

namespace Bundle

/-- All kinds of data are canonical. -/
def IsCanonical (b : Bundle) : Prop := ∀ datum ∈ b.details.extendedData, datum.kind.IsCanonical

/-- The values of the fields, as they are written. -/
def fieldValues (b : Bundle) : List (Option Json) := [some b.report.toJson, some b.details.toJson]

theorem toJson_eq (b : Bundle) : b.toJson = .object (membersOf shape.fields b.fieldValues) := rfl

theorem ofJson?_toJson {b : Bundle} (h : b.IsCanonical) : ofJson? b.toJson = some b := by
  have hfields : b.toJson.fields? shape = some b.fieldValues := by
    rw [toJson_eq]
    exact Json.fields?_object_membersOf (by decide) (by simp [Suit, shape, fieldValues])
  rw [ofJson?, hfields]
  simp [fieldValues, Json.defaulted?, ReportSummary.ofJson?_toJson, Details.ofJson?_toJson h]

theorem writable_toJson (b : Bundle) (depth : Nat) : Writable p (depth + 4) b.toJson := by
  rw [toJson_eq]
  refine .record ?_
  simp [fieldValues, ReportSummary.writable_toJson b.report (depth + 2), Details.writable_toJson]

/-- A bundle is read if its report is, and its details if they are given. -/
theorem ofJson?_eq_some_iff {v : Json} {b : Bundle} :
    ofJson? v = some b ↔ ∃ report details, v.fields? shape = some [some report, details] ∧
      ReportSummary.ofJson? report = some b.report ∧
      Json.defaulted? Details.empty Details.ofJson? details = some b.details := by
  constructor
  · intro h
    obtain ⟨values, hvalues, h⟩ := Option.bind_eq_some_iff.1 h
    split at h
    · next report details =>
        obtain ⟨r, hr, h⟩ := Option.bind_eq_some_iff.1 h
        obtain ⟨d, hd, h⟩ := Option.bind_eq_some_iff.1 h
        obtain rfl := Option.some.inj h
        exact ⟨report, details, hvalues, hr, hd⟩
    · cases h
  · rintro ⟨report, details, hvalues, hr, hd⟩
    rw [ofJson?, hvalues]
    simp [hr, hd]

/-- A bundle that was read has canonical kinds. -/
theorem isCanonical_of_ofJson? {v : Json} {b : Bundle} (h : ofJson? v = some b) : b.IsCanonical := by
  obtain ⟨report, details, -, -, hdetails⟩ := ofJson?_eq_some_iff.1 h
  cases details with
  | none =>
      rw [IsCanonical, ← Option.some.inj hdetails]
      exact List.forall_mem_nil _
  | some w => exact Details.isCanonical_of_ofJson? hdetails

end Bundle

end DefectTrail
