import DefectTrail.Json.Record
import DefectTrail.Report

/-!
# Reports in JSON

Each type has its record shape, a reader `ofJson?` and a writer `toJson`. The readers take an object or an array of
the fields' values; the writers give an object with the fields in declared order, without the fields that have no
value.
-/

namespace DefectTrail

open Json (optional? defaulted? optionalMember)

namespace ReportSummary

def shape : Json.Shape :=
  ⟨[⟨"reportId", .required⟩, ⟨"checkerMsg", .required⟩, ⟨"checkerId", .defaulted⟩], false⟩

def ofJson? (v : Json) : Option ReportSummary := do
  match ← v.fields? shape with
  | [some reportId, some checkerMsg, checkerId] =>
    return ⟨← reportId.ofInt64?, ← checkerMsg.ofString?, ← defaulted? "" Json.ofString? checkerId⟩
  | _ => none

def toJson (r : ReportSummary) : Json :=
  .object [("reportId", .ofInt64 r.reportId), ("checkerMsg", .string r.checkerMsg), ("checkerId", .string r.checkerId)]

end ReportSummary

namespace DatumKind

def ofJson? (v : Json) : Option DatumKind := v.ofString?.map ofWireName

def toJson (k : DatumKind) : Json := .string k.wireName

end DatumKind

namespace Datum

def shape : Json.Shape :=
  ⟨[⟨"type", .required⟩, ⟨"startLine", .required⟩, ⟨"message", .required⟩, ⟨"filePath", .defaulted⟩,
    ⟨"startCol", .defaulted⟩, ⟨"endLine", .defaulted⟩, ⟨"endCol", .defaulted⟩], false⟩

def ofJson? (v : Json) : Option Datum := do
  match ← v.fields? shape with
  | [some kind, some startLine, some message, filePath, startCol, endLine, endCol] =>
    return ⟨← DatumKind.ofJson? kind, ← startLine.ofInt64?, ← message.ofString?,
      ← optional? Json.ofString? filePath, ← optional? Json.ofInt64? startCol, ← optional? Json.ofInt64? endLine,
      ← optional? Json.ofInt64? endCol⟩
  | _ => none

def toJson (d : Datum) : Json :=
  .object ([("type", d.kind.toJson), ("startLine", .ofInt64 d.startLine), ("message", .string d.message)]
    ++ optionalMember "filePath" Json.string d.filePath
    ++ optionalMember "startCol" Json.ofInt64 d.startCol
    ++ optionalMember "endLine" Json.ofInt64 d.endLine
    ++ optionalMember "endCol" Json.ofInt64 d.endCol)

end Datum

namespace Event

def shape : Json.Shape :=
  ⟨[⟨"msg", .required⟩, ⟨"startLine", .defaulted⟩, ⟨"startCol", .defaulted⟩, ⟨"endLine", .defaulted⟩,
    ⟨"endCol", .defaulted⟩, ⟨"fileId", .defaulted⟩], false⟩

def ofJson? (v : Json) : Option Event := do
  match ← v.fields? shape with
  | [some msg, startLine, startCol, endLine, endCol, fileId] =>
    return ⟨← msg.ofString?, ← optional? Json.ofInt64? startLine, ← optional? Json.ofInt64? startCol,
      ← optional? Json.ofInt64? endLine, ← optional? Json.ofInt64? endCol, ← optional? Json.ofInt64? fileId⟩
  | _ => none

def toJson (e : Event) : Json :=
  .object ([("msg", .string e.msg)]
    ++ optionalMember "startLine" Json.ofInt64 e.startLine
    ++ optionalMember "startCol" Json.ofInt64 e.startCol
    ++ optionalMember "endLine" Json.ofInt64 e.endLine
    ++ optionalMember "endCol" Json.ofInt64 e.endCol
    ++ optionalMember "fileId" Json.ofInt64 e.fileId)

end Event

namespace Details

def shape : Json.Shape := ⟨[⟨"extendedData", .defaulted⟩, ⟨"pathEvents", .defaulted⟩], false⟩

def ofJson? (v : Json) : Option Details := do
  match ← v.fields? shape with
  | [extendedData, pathEvents] =>
    return ⟨← defaulted? [] (Json.ofArray? Datum.ofJson?) extendedData,
      ← defaulted? [] (Json.ofArray? Event.ofJson?) pathEvents⟩
  | _ => none

def toJson (d : Details) : Json :=
  .object [("extendedData", .array (d.extendedData.map Datum.toJson)),
    ("pathEvents", .array (d.pathEvents.map Event.toJson))]

end Details

namespace Bundle

def shape : Json.Shape := ⟨[⟨"report", .required⟩, ⟨"details", .defaulted⟩], false⟩

def ofJson? (v : Json) : Option Bundle := do
  match ← v.fields? shape with
  | [some report, details] =>
    return ⟨← ReportSummary.ofJson? report, ← defaulted? Details.empty Details.ofJson? details⟩
  | _ => none

def toJson (b : Bundle) : Json := .object [("report", b.report.toJson), ("details", b.details.toJson)]

/-- The bundles of a document. An array is read as a list of bundles if that is possible, and as the field values of
one bundle if not. -/
def listOfJson? (v : Json) : Option (List Bundle) :=
  match v.ofArray? ofJson? with
  | some bundles => some bundles
  | none => (ofJson? v).map fun b => [b]

end Bundle

end DefectTrail
