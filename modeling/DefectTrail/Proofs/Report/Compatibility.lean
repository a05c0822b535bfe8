import DefectTrail.Proofs.Annotation.Nodes
import DefectTrail.Proofs.Json.Edit
import DefectTrail.Proofs.Report.Codec
import DefectTrail.Proofs.Report.Document
import Mathlib.Logic.Relation

/-!
# Documents of newer services

A newer service may order the members of a record differently, add members of its own, and send data of kinds that are
not known here. None of this changes what is annotated.

* `Bundle.shown` : a bundle without the data of unknown kinds; `Bundle.annotate_shown` : it is annotated the same;
* `ReportSummary.Edit`, `Datum.Edit`, `Event.Edit`, `Details.Edit`, `Bundle.Edit`, `Bundle.DocumentEdit` : one edit, at
  any level of a document;
* `Bundle.exists_ofJson?_of_edit` : an edited bundle is read as one that shows the same;
  `Bundle.IsObjectDocument.edit` : so is an edited document, whose form stays the same;
* `edited_document_annotates_the_same` : the statement as a whole, about any number of edits.
-/

namespace DefectTrail

open Json (RecordEdit ListEdit)

/-! ## What is shown -/

namespace DatumKind

/-- Data of this kind is shown. -/
def IsShown (k : DatumKind) : Prop := k = expansion ∨ k = note

instance : DecidablePred IsShown := fun k => inferInstanceAs (Decidable (k = expansion ∨ k = note))

end DatumKind

namespace DatumGroup

theorem isShown_datumKind {g : DatumGroup} (h : g ∈ all) : g.datumKind.IsShown := by
  rw [all, List.mem_pair] at h
  rcases h with rfl | rfl
  · exact Or.inl rfl
  · exact Or.inr rfl

theorem members_filter_isShown {g : DatumGroup} (h : g ∈ all) (data : List Datum) :
    g.members (data.filter fun d => d.kind.IsShown) = g.members data := by
  rw [members, members, List.filter_filter]
  refine congrArg (List.mergeSort · _) (List.filter_congr fun d _ => ?_)
  rw [Bool.and_eq_left_iff_imp, decide_eq_true_eq, decide_eq_true_eq]
  intro hkind
  rw [hkind]
  exact isShown_datumKind h

theorem nodes_filter_isShown {g : DatumGroup} (h : g ∈ all) (report : ReportSummary) (data : List Datum) :
    g.nodes report (data.filter fun d => d.kind.IsShown) = g.nodes report data := by
  rw [nodes_eq, nodes_eq, members_filter_isShown h]

end DatumGroup

theorem dataNodes_filter_isShown (report : ReportSummary) (data : List Datum) :
    dataNodes report (data.filter fun d => d.kind.IsShown) = dataNodes report data := by
  rw [dataNodes, dataNodes, DatumGroup.nodes_filter_isShown List.mem_cons_self,
    DatumGroup.nodes_filter_isShown (List.mem_cons_of_mem _ List.mem_cons_self)]

/-- The details without the data that is not shown. -/
def Details.shown (d : Details) : Details := ⟨d.extendedData.filter fun datum => datum.kind.IsShown, d.pathEvents⟩

namespace Bundle

/-- The bundle without the data that is not shown. -/
def shown (b : Bundle) : Bundle := ⟨b.report, b.details.shown⟩

/-- Data of other kinds does not matter, not even for the ids of what is shown. -/
theorem annotate_shown (b : Bundle) (options : AnnotateOptions) : b.shown.annotate options = b.annotate options := by
  have hdata : dataNodes b.shown.report b.shown.details.extendedData = dataNodes b.report b.details.extendedData :=
    dataNodes_filter_isShown b.report b.details.extendedData
  rw [annotate, annotate, hdata]
  rfl

theorem annotateAll_eq_of_shown {bundles bundles' : List Bundle} (h : bundles'.map shown = bundles.map shown)
    (options : AnnotateOptions) : annotateAll bundles' options = annotateAll bundles options := by
  have hannotate (bs : List Bundle) : bs.map (·.annotate options) = (bs.map shown).map (·.annotate options) := by
    rw [List.map_map]
    exact List.map_congr_left fun b _ => (b.annotate_shown options).symm
  rw [annotateAll, annotateAll, hannotate bundles', h, ← hannotate bundles]

end Bundle

/-! ## Edits -/

def ReportSummary.Edit : Json → Json → Prop := Json.FlatEdit shape

def Datum.Edit : Json → Json → Prop := Json.FlatEdit shape

def Event.Edit : Json → Json → Prop := Json.FlatEdit shape

/-- A datum of a kind that is not shown; a document that is read as a whole asks that all of it can be read. -/
def Datum.IsUnknown (v : Json) : Prop := v.isReadable = true ∧ ∃ d, Datum.ofJson? v = some d ∧ ¬ d.kind.IsShown

namespace Details

/-- An edit of a list in the details; the data may get new items, if they are of unknown kinds. -/
def FieldEdit (name : String) (v v' : Json) : Prop :=
  name = "extendedData" ∧ ListEdit Datum.Edit Datum.IsUnknown v v' ∨
    name = "pathEvents" ∧ ListEdit Event.Edit (fun _ => False) v v'

def Edit : Json → Json → Prop := RecordEdit shape FieldEdit

end Details

namespace Bundle

def FieldEdit (name : String) (v v' : Json) : Prop :=
  name = "report" ∧ ReportSummary.Edit v v' ∨ name = "details" ∧ Details.Edit v v'

def Edit : Json → Json → Prop := RecordEdit shape FieldEdit

/-- An edit of a document: of its one bundle, or of one in its list. -/
inductive DocumentEdit : Json → Json → Prop where
  | bundle {members : List (String × Json)} {v' : Json} (h : Edit (.object members) v') :
      DocumentEdit (.object members) v'
  | item {v v' : Json} (h : ListEdit Edit (fun _ => False) v v') : DocumentEdit v v'

/-- A document is the object of one bundle, or an array of such objects. -/
inductive IsObjectDocument : Json → List Bundle → Prop where
  | bundle {members : List (String × Json)} {b : Bundle} (h : ofJson? (.object members) = some b) :
      IsObjectDocument (.object members) [b]
  | list {items : List Json} {bundles : List Bundle} (hobjects : ∀ item ∈ items, ∃ members, item = .object members)
      (h : Json.ofArray? ofJson? (.array items) = some bundles) : IsObjectDocument (.array items) bundles

end Bundle

/-! ## What stays readable -/

section
variable {v v' : Json}

theorem Details.Edit.isReadable (h : Edit v v') (hv : v.isReadable = true) : v'.isReadable = true := by
  refine RecordEdit.isReadable (fun hedit hvalue => ?_) h hv
  rcases hedit with ⟨-, hdata⟩ | ⟨-, hevents⟩
  · exact hdata.isReadable Json.FlatEdit.isReadable And.left hvalue
  · exact hevents.isReadable Json.FlatEdit.isReadable False.elim hvalue

theorem Bundle.Edit.isReadable (h : Edit v v') (hv : v.isReadable = true) : v'.isReadable = true := by
  refine RecordEdit.isReadable (fun hedit hvalue => ?_) h hv
  rcases hedit with ⟨-, hreport⟩ | ⟨-, hdetails⟩
  · exact Json.FlatEdit.isReadable hreport hvalue
  · exact hdetails.isReadable hvalue

theorem Bundle.DocumentEdit.isReadable (h : DocumentEdit v v') (hv : v.isReadable = true) : v'.isReadable = true := by
  cases h with
  | bundle h => exact h.isReadable hv
  | item h => exact h.isReadable Bundle.Edit.isReadable False.elim hv

end

/-! ## Edited records -/

section
variable {v v' : Json}

theorem ReportSummary.ofJson?_of_edit {r : ReportSummary} (h : Edit v v') (hr : ofJson? v = some r) :
    ofJson? v' = some r :=
  h.bind_fields? rfl (by decide) hr

theorem Datum.ofJson?_of_edit {d : Datum} (h : Edit v v') (hd : ofJson? v = some d) : ofJson? v' = some d :=
  h.bind_fields? rfl (by decide) hd

theorem Event.ofJson?_of_edit {e : Event} (h : Edit v v') (he : ofJson? v = some e) : ofJson? v' = some e :=
  h.bind_fields? rfl (by decide) he

/-- Edited data is read, and shows the same. -/
theorem Datum.exists_ofArray?_of_edit {data : List Datum} (h : ListEdit Edit IsUnknown v v')
    (hdata : Json.ofArray? ofJson? v = some data) :
    ∃ data', Json.ofArray? ofJson? v' = some data' ∧
      (data'.filter fun d => d.kind.IsShown) = data.filter fun d => d.kind.IsShown := by
  have hunknown {w : Json} (hw : IsUnknown w) :
      ∃ d, ofJson? w = some d ∧ Option.guard (fun d : Datum => d.kind.IsShown) d = none := by
    obtain ⟨-, d, hd, hkind⟩ := hw
    exact ⟨d, hd, Option.guard_eq_none_iff.2 (decide_eq_false hkind)⟩
  obtain ⟨data', hdata', hshown⟩ := h.exists_ofArray? (Option.guard fun d => d.kind.IsShown)
    (fun hedit hd => ⟨_, ofJson?_of_edit hedit hd, rfl⟩) hunknown hdata
  rw [List.filterMap_eq_filter] at hshown
  exact ⟨data', hdata', hshown⟩

theorem Event.ofArray?_of_edit {events : List Event} (h : ListEdit Edit (fun _ => False) v v')
    (hevents : Json.ofArray? ofJson? v = some events) : Json.ofArray? ofJson? v' = some events := by
  obtain ⟨events', hevents', hsame⟩ := h.exists_ofArray? some
    (fun hedit he => ⟨_, ofJson?_of_edit hedit he, rfl⟩) False.elim hevents
  rw [List.filterMap_some, List.filterMap_some] at hsame
  rw [hevents', hsame]

/-- Edited details are read, and show the same. -/
theorem Details.exists_ofJson?_of_edit {d : Details} (h : Edit v v') (hd : ofJson? v = some d) :
    ∃ d', ofJson? v' = some d' ∧ d'.shown = d.shown := by
  obtain ⟨data, events, hvalues, hdata, hevents⟩ := ofJson?_eq_some_iff.1 hd
  obtain ⟨values', hvalues', rfl | ⟨i, f, value, value', hi, hedit, hvalue, rfl⟩⟩ :=
    h.exists_fields? rfl (by decide) hvalues
  · exact ⟨d, ofJson?_eq_some_iff.2 ⟨data, events, hvalues', hdata, hevents⟩, rfl⟩
  · -- the field that was edited is the first or the second
    rcases i with _ | _ | i
    · obtain rfl := Option.some.inj hi
      obtain rfl := Option.some.inj hvalue
      obtain ⟨-, hlist⟩ := hedit.resolve_right fun hother => absurd hother.1 (by decide)
      obtain ⟨data', hdata', hshown⟩ := Datum.exists_ofArray?_of_edit hlist hdata
      refine ⟨⟨data', d.pathEvents⟩, ofJson?_eq_some_iff.2 ⟨some value', events, hvalues', hdata', hevents⟩, ?_⟩
      rw [shown, shown, hshown]
    · obtain rfl := Option.some.inj hi
      obtain rfl := Option.some.inj hvalue
      obtain ⟨-, hlist⟩ := hedit.resolve_left fun hother => absurd hother.1 (by decide)
      have hevents' := Event.ofArray?_of_edit hlist hevents
      exact ⟨d, ofJson?_eq_some_iff.2 ⟨data, some value', hvalues', hdata, hevents'⟩, rfl⟩
    · cases hvalue

/-- An edited bundle is read, and shows the same. -/
theorem Bundle.exists_ofJson?_of_edit {b : Bundle} (h : Edit v v') (hb : ofJson? v = some b) :
    ∃ b', ofJson? v' = some b' ∧ b'.shown = b.shown := by
  obtain ⟨report, details, hvalues, hreport, hdetails⟩ := ofJson?_eq_some_iff.1 hb
  obtain ⟨values', hvalues', rfl | ⟨i, f, value, value', hi, hedit, hvalue, rfl⟩⟩ :=
    h.exists_fields? rfl (by decide) hvalues
  · exact ⟨b, ofJson?_eq_some_iff.2 ⟨report, details, hvalues', hreport, hdetails⟩, rfl⟩
  · rcases i with _ | _ | i
    · obtain rfl := Option.some.inj hi
      obtain rfl := Option.some.inj (Option.some.inj hvalue)
      obtain ⟨-, hsummary⟩ := hedit.resolve_right fun hother => absurd hother.1 (by decide)
      have hreport' := ReportSummary.ofJson?_of_edit hsummary hreport
      exact ⟨b, ofJson?_eq_some_iff.2 ⟨value', details, hvalues', hreport', hdetails⟩, rfl⟩
    · obtain rfl := Option.some.inj hi
      obtain rfl := Option.some.inj hvalue
      obtain ⟨-, hinner⟩ := hedit.resolve_left fun hother => absurd hother.1 (by decide)
      obtain ⟨d', hdetails', hshown⟩ := Details.exists_ofJson?_of_edit hinner hdetails
      refine ⟨⟨b.report, d'⟩, ofJson?_eq_some_iff.2 ⟨report, some value', hvalues', hreport, hdetails'⟩, ?_⟩
      rw [shown, shown, hshown]
    · cases hvalue

end

/-! ## Edited documents -/

namespace Bundle

variable {v v' : Json} {bundles : List Bundle}

theorem Edit.exists_members {members : List (String × Json)} (h : Edit (.object members) v') :
    ∃ members', v' = .object members' := by
  cases h <;> exact ⟨_, rfl⟩

theorem IsObjectDocument.listOfJson?_eq (h : IsObjectDocument v bundles) : listOfJson? v = some bundles := by
  cases h with
  | bundle h =>
      show (ofJson? _).map _ = _
      rw [h]
      rfl
  | list hobjects h => rw [listOfJson?, h]

/-- An edited document is one of the same form, and its bundles show the same. -/
theorem IsObjectDocument.edit (hdocument : IsObjectDocument v bundles) (h : DocumentEdit v v') :
    ∃ bundles', IsObjectDocument v' bundles' ∧ bundles'.map shown = bundles.map shown := by
  cases hdocument with
  | bundle hb =>
      cases h with
      | bundle h =>
          obtain ⟨b', hb', hshown⟩ := exists_ofJson?_of_edit h hb
          obtain ⟨members', rfl⟩ := h.exists_members
          exact ⟨[b'], .bundle hb', congrArg (fun b => [b]) hshown⟩
      | item h => cases h
  | list hobjects hbundles =>
      cases h with
      | item h =>
          obtain ⟨bundles', hbundles', hshown⟩ := h.exists_ofArray? (some ∘ shown)
            (fun hedit hb => by
              obtain ⟨b', hb', hsame⟩ := exists_ofJson?_of_edit hedit hb
              exact ⟨b', hb', congrArg some hsame⟩)
            False.elim hbundles
          rw [List.filterMap_eq_map] at hshown
          refine ⟨bundles', ?_, hshown⟩
          cases h with
          | item hedit =>
              obtain ⟨hbefore, hrest⟩ := List.forall_mem_append.1 hobjects
              obtain ⟨⟨members, rfl⟩, hafter⟩ := List.forall_mem_cons.1 hrest
              refine .list (List.forall_mem_append.2 ⟨hbefore, List.forall_mem_cons.2 ⟨?_, hafter⟩⟩) hbundles'
              exact hedit.exists_members
          | insert hnone => exact hnone.elim

/-- So is a document after any number of edits. -/
theorem IsObjectDocument.edits (hdocument : IsObjectDocument v bundles) (hreadable : v.isReadable = true)
    (h : Relation.ReflTransGen DocumentEdit v v') :
    v'.isReadable = true ∧ ∃ bundles', IsObjectDocument v' bundles' ∧ bundles'.map shown = bundles.map shown := by
  induction h with
  | refl => exact ⟨hreadable, bundles, hdocument, rfl⟩
  | tail hedits hedit ih =>
      obtain ⟨hreadable', bundles', hdocument', hshown'⟩ := ih
      obtain ⟨bundles'', hdocument'', hshown''⟩ := hdocument'.edit hedit
      exact ⟨hedit.isReadable hreadable', bundles'', hdocument'', hshown''.trans hshown'⟩

end Bundle

theorem parseBundles?_of_isObjectDocument {text : String} {v : Json} {bundles : List Bundle}
    (hparse : Json.parse? text = some v) (hreadable : v.isReadable = true)
    (hdocument : Bundle.IsObjectDocument v bundles) : parseBundles? text = some bundles := by
  rw [parseBundles?_of_parse? hparse, if_pos hreadable, hdocument.listOfJson?_eq]

/-- **Documents that a newer service might send instead are read, too, and annotated the same.** -/
theorem edited_document_annotates_the_same {text text' : String} {v v' : Json} {bundles : List Bundle}
    (hparse : Json.parse? text = some v) (hreadable : v.isReadable = true)
    (hdocument : Bundle.IsObjectDocument v bundles) (hedits : Relation.ReflTransGen Bundle.DocumentEdit v v')
    (hparse' : Json.parse? text' = some v') :
    parseBundles? text = some bundles ∧
      ∃ bundles', parseBundles? text' = some bundles' ∧
        ∀ options, Bundle.annotateAll bundles' options = Bundle.annotateAll bundles options := by
  obtain ⟨hreadable', bundles', hdocument', hshown⟩ := hdocument.edits hreadable hedits
  exact ⟨parseBundles?_of_isObjectDocument hparse hreadable hdocument, bundles',
    parseBundles?_of_isObjectDocument hparse' hreadable' hdocument', Bundle.annotateAll_eq_of_shown hshown⟩

/-- A bundle with its members in another order, one of them with a member more, and with a datum of an unknown kind. -/
theorem edited_document_annotates_the_same_unknown_kind :
    let text := "\x7b\"report\":[1,\"m\"],\"details\":\x7b\"extendedData\":[[\"NOTE\",2,\"n\"]]\x7d\x7d"
    let text' :=
      "\x7b\"details\":\x7b\"extendedData\":[[\"TAG\",1,\"t\"],[\"NOTE\",2,\"n\"]],\"x\":0\x7d,\"report\":[1,\"m\"]\x7d"
    let bundles : List Bundle := [⟨⟨1, "m", ""⟩, [.bare .note 2 "n"], []⟩]
    ∃ v v', Json.parse? text = some v ∧ v.isReadable = true ∧ Bundle.IsObjectDocument v bundles ∧
      Relation.ReflTransGen Bundle.DocumentEdit v v' ∧ Json.parse? text' = some v' ∧
      parseBundles? text = some bundles ∧ parseBundles? text' ≠ some bundles ∧
      ∃ bundles', parseBundles? text' = some bundles' ∧
        ∀ options, Bundle.annotateAll bundles' options = Bundle.annotateAll bundles options := by
  intro text text' bundles
  let report : String × Json := ("report", .array [.int 1, .string "m"])
  let note : Json := .array [.string "NOTE", .int 2, .string "n"]
  let tag : Json := .array [.string "TAG", .int 1, .string "t"]
  let details (data : List Json) (more : List (String × Json)) : String × Json :=
    ("details", .object (("extendedData", .array data) :: more))
  have hparse : Json.parse?
      "\x7b\"report\":[1,\"m\"],\"details\":\x7b\"extendedData\":[[\"NOTE\",2,\"n\"]]\x7d\x7d" =
      some (.object [report, details [note] []]) := rfl
  have hparse' : Json.parse?
      "\x7b\"details\":\x7b\"extendedData\":[[\"TAG\",1,\"t\"],[\"NOTE\",2,\"n\"]],\"x\":0\x7d,\"report\":[1,\"m\"]\x7d" =
      some (.object [details [tag, note] [("x", .int 0)], report]) := rfl
  have hreadable : (Json.object [report, details [note] []]).isReadable = true := by decide +kernel
  have hdocument : Bundle.IsObjectDocument (.object [report, details [note] []]) bundles := .bundle (by decide +kernel)
  -- the edits: another order, a datum that is put first, and a member of the details
  have hdetails {data data' : List Json} {more more' : List (String × Json)}
      (h : Details.Edit (details data more).2 (details data' more').2) :
      Bundle.DocumentEdit (.object [details data more, report]) (.object [details data' more', report]) :=
    .bundle (@RecordEdit.member _ _ [] [report] ⟨"details", .defaulted⟩ _ _ (by decide) (Or.inr ⟨rfl, h⟩))
  have htag : Datum.IsUnknown tag := ⟨by decide +kernel, .bare (.other "TAG") 1 "t", by decide +kernel, by decide⟩
  have hinsert : Details.Edit (details [note] []).2 (details [tag, note] []).2 :=
    @RecordEdit.member _ _ [] [] ⟨"extendedData", .defaulted⟩ _ _ (by decide)
      (Or.inl ⟨rfl, @ListEdit.insert _ _ [] [note] tag htag⟩)
  have hadd : Details.Edit (details [tag, note] []).2 (details [tag, note] [("x", .int 0)]).2 :=
    @RecordEdit.add _ _ [("extendedData", .array [tag, note])] [] "x" (.int 0) (by decide) rfl
  have hedits : Relation.ReflTransGen Bundle.DocumentEdit (.object [report, details [note] []])
      (.object [details [tag, note] [("x", .int 0)], report]) :=
    .head (.bundle (.reorder (.swap _ _ _))) (.head (hdetails hinsert) (.single (hdetails hadd)))
  obtain ⟨hread, hread'⟩ := edited_document_annotates_the_same hparse hreadable hdocument hedits hparse'
  exact ⟨_, _, hparse, hreadable, hdocument, hedits, hparse', hread, by decide +kernel, hread'⟩

end DefectTrail
