/-!
# Reports

What the report service hands out about a defect: a summary, and details with the events of the path that leads to
the defect and with further data attached to source lines.
-/

namespace DefectTrail

/-- A report as it is listed. -/
structure ReportSummary where
  reportId : Int64
  /-- The checker's short message, which names the defect. -/
  checkerMsg : String
  /-- The checker's name, empty where it is not known. -/
  checkerId : String
  deriving DecidableEq, Repr

/-- What a datum says. Kinds that are not known yet keep their wire name. -/
inductive DatumKind where
  | expansion
  | note
  | other (name : String)
  deriving DecidableEq, Repr

namespace DatumKind

/-- The name in documents. -/
def wireName : DatumKind → String
  | expansion => "MACRO"
  | note => "NOTE"
  | other name => name

/-- The kind with the given name in documents. -/
def ofWireName (name : String) : DatumKind :=
  if name = "MACRO" then expansion else if name = "NOTE" then note else other name

theorem wireName_ofWireName (name : String) : (ofWireName name).wireName = name := by
  unfold ofWireName
  split
  · simp_all [wireName]
  · split <;> simp_all [wireName]

end DatumKind

/-- A remark on a source line: the expansion of a preprocessor name, a note, or another kind. -/
structure Datum where
  kind : DatumKind
  startLine : Int64
  message : String
  filePath : Option String
  startCol : Option Int64
  endLine : Option Int64
  endCol : Option Int64
  deriving DecidableEq, Repr

/-- A datum without the fields that may be missing. -/
def Datum.bare (kind : DatumKind) (startLine : Int64) (message : String) : Datum :=
  ⟨kind, startLine, message, none, none, none, none⟩

/-- One step of the path to a defect. -/
structure Event where
  msg : String
  startLine : Option Int64
  startCol : Option Int64
  endLine : Option Int64
  endCol : Option Int64
  fileId : Option Int64
  deriving DecidableEq, Repr

/-- An event that has only its message. -/
def Event.bare (msg : String) : Event := ⟨msg, none, none, none, none, none⟩

/-- What is known about a report besides its summary. -/
structure Details where
  extendedData : List Datum
  pathEvents : List Event
  deriving DecidableEq, Repr

/-- The details of a report about which nothing is known. -/
def Details.empty : Details := ⟨[], []⟩

/-- A report with its details. -/
structure Bundle where
  report : ReportSummary
  details : Details
  deriving DecidableEq, Repr

end DefectTrail
