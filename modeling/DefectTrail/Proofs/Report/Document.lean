import DefectTrail.Collection
import DefectTrail.Proofs.Json.Record

/-!
# What an array document is read as

An array may hold bundles, but it may also be one bundle written as the list of its fields; the first reading is
preferred.

* `Bundle.IsFieldList` : the items are the fields of one bundle; `Bundle.ofJson?_array_eq_some_iff` says that an array
  is read as a bundle in that case and no other;
* `Bundle.listOfJson?_array_eq_some_iff` : which bundles an array gives;
* `array_document_read_by_element_or_by_fields` : the statement as a whole, about texts;
  `array_of_fields_is_one_bundle` : a text with two items that gives one bundle.
-/

namespace DefectTrail

/-! ## One bundle in an array -/

namespace Bundle

/-- The items are the fields of one bundle in their order: its summary, and its details unless they are left out. -/
def IsFieldList (items : List Json) (b : Bundle) : Prop :=
  ∃ report rest, items = report :: rest ∧ ReportSummary.ofJson? report = some b.report ∧
    (rest = [] ∧ b.details = Details.empty ∨
      ∃ details, rest = [details] ∧ Details.ofJson? details = some b.details)

theorem ofJson?_summary_only (report : Json) :
    ofJson? (.array [report]) = (ReportSummary.ofJson? report).map fun r => ⟨r, Details.empty⟩ := by
  show (ReportSummary.ofJson? report).bind _ = _
  cases ReportSummary.ofJson? report <;> rfl

theorem ofJson?_summary_and_details (report details : Json) :
    ofJson? (.array [report, details]) =
      (ReportSummary.ofJson? report).bind fun r => (Details.ofJson? details).map fun d => ⟨r, d⟩ := by
  show (ReportSummary.ofJson? report).bind _ = _
  cases ReportSummary.ofJson? report with
  | none => rfl
  | some r =>
      show (Details.ofJson? details).bind _ = _
      cases Details.ofJson? details <;> rfl

/-- An array is read as a bundle if it lists the fields of one. -/
theorem ofJson?_array_eq_some_iff {items : List Json} {b : Bundle} :
    ofJson? (.array items) = some b ↔ IsFieldList items b := by
  constructor
  · intro h
    match items with
    | [] => cases h
    | [report] =>
        rw [ofJson?_summary_only] at h
        obtain ⟨r, hr, rfl⟩ := Option.map_eq_some_iff.1 h
        exact ⟨report, [], rfl, hr, Or.inl ⟨rfl, rfl⟩⟩
    | [report, details] =>
        rw [ofJson?_summary_and_details] at h
        obtain ⟨r, hr, h⟩ := Option.bind_eq_some_iff.1 h
        obtain ⟨d, hd, rfl⟩ := Option.map_eq_some_iff.1 h
        exact ⟨report, [details], rfl, hr, Or.inr ⟨details, rfl, hd⟩⟩
    | _ :: _ :: _ :: _ => cases h
  · rintro ⟨report, rest, rfl, hreport, ⟨rfl, hempty⟩ | ⟨details, rfl, hdetails⟩⟩
    · rw [ofJson?_summary_only, hreport, Option.map_some, ← hempty]
    · rw [ofJson?_summary_and_details, hreport, Option.bind_some, hdetails, Option.map_some]

theorem listOfJson?_array_eq_some_iff {items : List Json} {bundles : List Bundle} :
    listOfJson? (.array items) = some bundles ↔
      items.map ofJson? = bundles.map some ∨
        (∃ v ∈ items, ofJson? v = none) ∧ ∃ b, bundles = [b] ∧ IsFieldList items b := by
  rw [listOfJson?, Json.ofArray?]
  cases hitems : items.mapM ofJson? with
  | some read =>
      have hall : ¬ ∃ v ∈ items, ofJson? v = none := by
        rw [← mapM_eq_none_iff, hitems]
        exact Option.some_ne_none read
      rw [← mapM_eq_some_iff, hitems]
      exact ⟨Or.inl, fun h => h.resolve_right fun h => hall h.1⟩
  | none =>
      have hnone : ¬ items.map ofJson? = bundles.map some := by
        rw [← mapM_eq_some_iff, hitems]
        exact (Option.some_ne_none bundles).symm
      have hread : ((ofJson? (.array items)).map fun b => [b]) = some bundles ↔
          ∃ b, bundles = [b] ∧ IsFieldList items b := by
        rw [Option.map_eq_some_iff]
        refine exists_congr fun b => ?_
        rw [ofJson?_array_eq_some_iff, and_comm, eq_comm]
      show ((ofJson? (.array items)).map fun b => [b]) = some bundles ↔ _
      rw [hread]
      exact ⟨fun h => Or.inr ⟨mapM_eq_none_iff.1 hitems, h⟩, fun h => (h.resolve_left hnone).2⟩

/-- What an array gives is what its elements give, unless it lists the fields of a bundle and is no list of bundles. -/
theorem listOfJson?_array_eq_mapM_iff {items : List Json} :
    listOfJson? (.array items) = items.mapM ofJson? ↔
      (∀ v ∈ items, ofJson? v ≠ none) ∨ ∀ b, ¬ IsFieldList items b := by
  rw [listOfJson?, Json.ofArray?]
  cases hitems : items.mapM ofJson? with
  | some read =>
      have hall : ¬ ∃ v ∈ items, ofJson? v = none := by
        rw [← mapM_eq_none_iff, hitems]
        exact Option.some_ne_none read
      push Not at hall
      exact iff_of_true rfl (Or.inl hall)
  | none =>
      obtain ⟨v, hv, hnone⟩ := mapM_eq_none_iff.1 hitems
      show ((ofJson? (.array items)).map fun b => [b]) = none ↔ _
      rw [Option.map_eq_none_iff, Option.eq_none_iff_forall_ne_some]
      constructor
      · exact fun h => Or.inr fun b hb => h b (ofJson?_array_eq_some_iff.2 hb)
      · rintro (h | h) b hb
        · exact h v hv hnone
        · exact h b (ofJson?_array_eq_some_iff.1 hb)

end Bundle

/-! ## Texts -/

theorem parseBundles?_of_parse? {text : String} {v : Json} (h : Json.parse? text = some v) :
    parseBundles? text = if v.isReadable then Bundle.listOfJson? v else none := by
  rw [parseBundles?, h]

theorem parseBundles?_eq_some_iff {text : String} {bundles : List Bundle} :
    parseBundles? text = some bundles ↔
      ∃ v, Json.parse? text = some v ∧ v.isReadable = true ∧ Bundle.listOfJson? v = some bundles := by
  constructor
  · intro h
    cases hparse : Json.parse? text with
    | none =>
        rw [parseBundles?, hparse] at h
        cases h
    | some v =>
        rw [parseBundles?_of_parse? hparse] at h
        by_cases hreadable : v.isReadable = true
        · rw [if_pos hreadable] at h
          exact ⟨v, rfl, hreadable, h⟩
        · rw [if_neg hreadable] at h
          cases h
  · rintro ⟨v, hparse, hreadable, hlist⟩
    rw [parseBundles?_of_parse? hparse, if_pos hreadable, hlist]

/-- **An array document is read element by element, or else as the list of one bundle's fields.** -/
theorem array_document_read_by_element_or_by_fields {text : String} {items : List Json}
    (harray : Json.parse? text = some (.array items)) :
    (∀ bundles, parseBundles? text = some bundles ↔
      (Json.array items).isReadable = true ∧
        (items.map Bundle.ofJson? = bundles.map some ∨
          (∃ v ∈ items, Bundle.ofJson? v = none) ∧ ∃ b, bundles = [b] ∧ Bundle.IsFieldList items b)) ∧
      ((Json.array items).isReadable = true →
        (parseBundles? text = items.mapM Bundle.ofJson? ↔
          (∀ v ∈ items, Bundle.ofJson? v ≠ none) ∨ ∀ b, ¬ Bundle.IsFieldList items b)) := by
  rw [parseBundles?_of_parse? harray]
  constructor
  · intro bundles
    by_cases hreadable : (Json.array items).isReadable = true
    · rw [if_pos hreadable, Bundle.listOfJson?_array_eq_some_iff, and_iff_right hreadable]
    · rw [if_neg hreadable]
      exact iff_of_false (Option.some_ne_none bundles).symm fun h => hreadable h.1
  · intro hreadable
    rw [if_pos hreadable, Bundle.listOfJson?_array_eq_mapM_iff]

/-- A text with two items, neither of them a bundle, that gives one bundle. -/
theorem array_of_fields_is_one_bundle :
    let text := "[\x7b\"reportId\":1,\"checkerMsg\":\"m\"\x7d,\x7b\x7d]"
    ∃ items, Json.parse? text = some (.array items) ∧ items.length = 2 ∧ (∀ v ∈ items, Bundle.ofJson? v = none) ∧
      parseBundles? text = some [⟨⟨1, "m", ""⟩, Details.empty⟩] := by
  refine ⟨[.object [("reportId", .int 1), ("checkerMsg", .string "m")], .object []], rfl, rfl, ?_, ?_⟩
  · intro v hv
    rcases List.mem_cons.1 hv with rfl | hv
    · decide +kernel
    · obtain rfl := List.mem_singleton.1 hv
      decide +kernel
  · decide +kernel

/-- A bundle given by its fields inside a list of bundles. -/
theorem array_document_read_by_element_or_by_fields_nested :
    ∃ items,
      Json.parse? "[[\x7b\"reportId\":1,\"checkerMsg\":\"m\"\x7d],\x7b\"report\":[2,\"n\"]\x7d]" =
        some (.array items) ∧
      (Json.array items).isReadable = true ∧
      parseBundles? "[[\x7b\"reportId\":1,\"checkerMsg\":\"m\"\x7d],\x7b\"report\":[2,\"n\"]\x7d]" =
        items.mapM Bundle.ofJson? ∧
      parseBundles? "[[\x7b\"reportId\":1,\"checkerMsg\":\"m\"\x7d],\x7b\"report\":[2,\"n\"]\x7d]" =
        some [⟨⟨1, "m", ""⟩, Details.empty⟩, ⟨⟨2, "n", ""⟩, Details.empty⟩] := by
  have harray : Json.parse? "[[\x7b\"reportId\":1,\"checkerMsg\":\"m\"\x7d],\x7b\"report\":[2,\"n\"]\x7d]" =
      some (.array [.array [.object [("reportId", .int 1), ("checkerMsg", .string "m")]],
        .object [("report", .array [.int 2, .string "n"])]]) := rfl
  obtain ⟨hbundles, helements⟩ := array_document_read_by_element_or_by_fields harray
  have hreadable : (Json.array [.array [.object [("reportId", .int 1), ("checkerMsg", .string "m")]],
      .object [("report", .array [.int 2, .string "n"])]]).isReadable = true := by decide +kernel
  have hread := (hbundles [⟨⟨1, "m", ""⟩, Details.empty⟩, ⟨⟨2, "n", ""⟩, Details.empty⟩]).2
    ⟨hreadable, Or.inl (by decide +kernel)⟩
  refine ⟨_, harray, hreadable, (helements hreadable).2 (Or.inl ?_), hread⟩
  decide +kernel

end DefectTrail
