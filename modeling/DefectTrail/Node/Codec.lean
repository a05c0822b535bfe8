import DefectTrail.Node
import DefectTrail.Report.Codec

/-!
# Annotated reports in JSON

Readers and writers in the manner of the reports' own. The names that a mismatch lacks are written as `null`, the
payloads that a node lacks are left out.
-/

namespace DefectTrail

open Json (optional? optionalMember)

/-- An integer of a signed 64-bit word, as a number of its own. -/
def Json.ofLevel? (v : Json) : Option Int := v.ofInt64?.map Int64.toInt

namespace StackMismatch

def shape : Json.Shape :=
  ⟨[⟨"stepIndex", .required⟩, ⟨"returnedFrom", .nullable⟩, ⟨"stackTop", .nullable⟩], false⟩

def ofJson? (v : Json) : Option StackMismatch := do
  match ← v.fields? shape with
  | [some stepIndex, returnedFrom, stackTop] =>
    return ⟨← stepIndex.ofWord?, ← optional? Json.ofString? returnedFrom, ← optional? Json.ofString? stackTop⟩
  | _ => none

def toJson (m : StackMismatch) : Json :=
  .object [("stepIndex", .ofNat m.stepIndex), ("returnedFrom", Json.nullable Json.string m.returnedFrom),
    ("stackTop", Json.nullable Json.string m.stackTop)]

end StackMismatch

namespace StepMarker

def shape : Json.Shape := ⟨[⟨"index", .required⟩, ⟨"type", .required⟩], false⟩

def ofJson? (v : Json) : Option StepMarker := do
  match ← v.fields? shape with
  | [some index, some kind] => return ⟨← index.ofWord?, ← kind.ofName?.bind MarkerKind.ofWireName?⟩
  | _ => none

def toJson (m : StepMarker) : Json := .object [("index", .ofNat m.index), ("type", .string m.kind.wireName)]

end StepMarker

namespace StepAnnotation

def shape : Json.Shape :=
  ⟨[⟨"event", .required⟩, ⟨"icon", .required⟩, ⟨"reportStepIcon", .required⟩, ⟨"bgColor", .required⟩,
    ⟨"level", .required⟩], false⟩

def ofJson? (v : Json) : Option StepAnnotation := do
  match ← v.fields? shape with
  | [some event, some icon, some marker, some band, some level] =>
    return ⟨← Event.ofJson? event, ← icon.ofName?.bind StepIcon.ofWireName?, ← StepMarker.ofJson? marker,
      ← band.ofString?, ← level.ofLevel?⟩
  | _ => none

def toJson (s : StepAnnotation) : Json :=
  .object [("event", s.event.toJson), ("icon", .string s.icon.wireName), ("reportStepIcon", s.marker.toJson),
    ("bgColor", .string s.band), ("level", .int s.level)]

end StepAnnotation

namespace DisplayNode

def shape : Json.Shape :=
  ⟨[⟨"id", .required⟩, ⟨"name", .required⟩, ⟨"kind", .required⟩, ⟨"data", .defaulted⟩, ⟨"step", .defaulted⟩], false⟩

def ofJson? (v : Json) : Option DisplayNode := do
  match ← v.fields? shape with
  | [some id, some name, some kind, datum, step] =>
    return ⟨← id.ofString?, ← name.ofString?, ← kind.ofName?.bind NodeKind.ofWireName?,
      ← optional? Datum.ofJson? datum, ← optional? StepAnnotation.ofJson? step⟩
  | _ => none

def toJson (n : DisplayNode) : Json :=
  .object ([("id", .string n.id), ("name", .string n.name), ("kind", .string n.kind.wireName)]
    ++ optionalMember "data" Datum.toJson n.datum
    ++ optionalMember "step" StepAnnotation.toJson n.step)

end DisplayNode

namespace AnnotatedReport

def shape : Json.Shape := ⟨[⟨"report", .required⟩, ⟨"nodes", .required⟩, ⟨"mismatches", .required⟩], false⟩

def ofJson? (v : Json) : Option AnnotatedReport := do
  match ← v.fields? shape with
  | [some report, some nodes, some mismatches] =>
    return ⟨← ReportSummary.ofJson? report, ← nodes.ofArray? DisplayNode.ofJson?,
      ← mismatches.ofArray? StackMismatch.ofJson?⟩
  | _ => none

def toJson (r : AnnotatedReport) : Json :=
  .object [("report", r.report.toJson), ("nodes", .array (r.nodes.map DisplayNode.toJson)),
    ("mismatches", .array (r.mismatches.map StackMismatch.toJson))]

end AnnotatedReport

end DefectTrail
