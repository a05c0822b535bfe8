import DefectTrail.Proofs.Report.Codec
import DefectTrail.Proofs.Report.Document

/-!
# Documents written anew

A document may say the same in many ways: records by name or by position, fields left out or `null`, members that no
record knows. Written anew, it says it in one way, and that is read as the same bundles.

* `Bundle.isCanonical_of_listOfJson?` : no kind that was read is a known one in disguise;
* `Bundle.listOfJson?_listToJson`, `Bundle.listOfJson?_toJson` : a list is not mistaken for the fields of one bundle,
  nor a bundle for a list;
* `document_written_anew_reads_the_same` : the statement as a whole, about texts.
-/

namespace DefectTrail

namespace Bundle

/-- The document with the given bundles. -/
def listToJson (bundles : List Bundle) : Json := .array (bundles.map toJson)

theorem isCanonical_of_listOfJson? {v : Json} {bundles : List Bundle} (h : listOfJson? v = some bundles) :
    ∀ b ∈ bundles, b.IsCanonical := by
  intro b hb
  unfold listOfJson? at h
  split at h
  · next read hread =>
      obtain rfl := Option.some.inj h
      obtain ⟨w, hw⟩ := Json.exists_of_mem_of_ofArray? hread hb
      exact isCanonical_of_ofJson? hw
  · obtain ⟨b', hb', hlist⟩ := Option.map_eq_some_iff.1 h
    rw [← hlist, List.mem_singleton] at hb
    rw [hb]
    exact isCanonical_of_ofJson? hb'

theorem listOfJson?_listToJson {bundles : List Bundle} (h : ∀ b ∈ bundles, b.IsCanonical) :
    listOfJson? (listToJson bundles) = some bundles := by
  have hitems : Json.ofArray? ofJson? (listToJson bundles) = some bundles :=
    Json.ofArray?_map_of_mem fun b hb => ofJson?_toJson (h b hb)
  rw [listOfJson?, hitems]

theorem listOfJson?_toJson {b : Bundle} (h : b.IsCanonical) : listOfJson? b.toJson = some [b] := by
  have hitems : Json.ofArray? ofJson? b.toJson = none := rfl
  rw [listOfJson?, hitems, ofJson?_toJson h]
  rfl

end Bundle

/-- A document that is written in one of the layouts and read. -/
theorem parseBundles?_write {write : Json → String} (hwrite : write ∈ [Json.compact, Json.pretty]) {v : Json}
    (h : Json.Writable Json.IsWord Json.maxDepth v) : parseBundles? (write v) = Bundle.listOfJson? v := by
  rw [parseBundles?_of_parse? (h.readAs.parse?_write hwrite), if_pos h.isReadable]

/-- **Bundles that were read are read again from what is written of them.** -/
theorem document_written_anew_reads_the_same {text : String} {bundles : List Bundle}
    (h : parseBundles? text = some bundles) :
    (∀ write ∈ [Json.compact, Json.pretty],
      parseBundles? (write (Bundle.listToJson bundles)) = some bundles ∧
      (∀ b ∈ bundles, parseBundles? (write b.toJson) = some [b]) ∧
      ∀ options, (parseBundles? (write (Bundle.listToJson bundles))).map (Bundle.annotateAll · options) =
        (parseBundles? text).map (Bundle.annotateAll · options)) ∧
      (∀ name, (DatumKind.ofJson? (.string name)).map DatumKind.toJson = some (.string name)) ∧
      ∀ v d, Datum.ofJson? v = some d → ∃ name rest rest',
        v.fields? Datum.shape = some (some (.string name) :: rest) ∧
          d.toJson.fields? Datum.shape = some (some (.string name) :: rest') := by
  obtain ⟨v, -, -, hlist⟩ := parseBundles?_eq_some_iff.1 h
  have hcanonical := Bundle.isCanonical_of_listOfJson? hlist
  refine ⟨fun write hwrite => ?_, fun name => ?_, fun v d hd => ?_⟩
  · have hall : parseBundles? (write (Bundle.listToJson bundles)) = some bundles := by
      have hwritable : Json.Writable Json.IsWord Json.maxDepth (Bundle.listToJson bundles) :=
        Json.Writable.list fun b _ => b.writable_toJson 122
      rw [parseBundles?_write hwrite hwritable, Bundle.listOfJson?_listToJson hcanonical]
    refine ⟨hall, fun b hb => ?_, fun options => by rw [hall, h]⟩
    rw [parseBundles?_write hwrite (b.writable_toJson 123), Bundle.listOfJson?_toJson (hcanonical b hb)]
  · rw [DatumKind.ofJson?_string, Option.map_some, DatumKind.toJson, DatumKind.wireName_ofWireName]
  · obtain ⟨kind, rest, hfields, hkind⟩ := Datum.exists_kind_of_ofJson? hd
    obtain ⟨-, rfl⟩ := DatumKind.ofJson?_eq_some_iff.1 hkind
    exact ⟨d.kind.wireName, rest, _, hfields, d.fields?_toJson⟩

/-- A document with a record by position, a member that no record knows, and a kind in small letters. -/
theorem document_written_anew_reads_the_same_macro :
    let text := "\x7b\"details\":\x7b\"extendedData\":[[\"macro\",3,\"m\",null]],\"x\":1\x7d,\"report\":[1,\"m\"]\x7d"
    let b : Bundle := ⟨⟨1, "m", ""⟩, ⟨[⟨.other "macro", 3, "m", none, none, none, none⟩], []⟩⟩
    parseBundles? text = some [b] ∧
      parseBundles? (Json.compact (Bundle.listToJson [b])) = some [b] ∧
      parseBundles? (Json.pretty b.toJson) = some [b] := by
  intro text b
  have hread : parseBundles? text = some [b] := by decide +kernel
  obtain ⟨hwritten, -, -⟩ := document_written_anew_reads_the_same hread
  obtain ⟨hlist, -, -⟩ := hwritten Json.compact List.mem_cons_self
  obtain ⟨-, heach, -⟩ := hwritten Json.pretty (List.mem_cons_of_mem _ List.mem_cons_self)
  exact ⟨hread, hlist, heach b List.mem_cons_self⟩

end DefectTrail
