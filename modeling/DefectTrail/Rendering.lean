import DefectTrail.Json.Printer
import DefectTrail.Node.Codec
import DefectTrail.Text.Padding

/-!
# Rendering

Annotated reports as a text tree, as one JSON array, and as JSON Lines with a report on each line.

The text has, for each report, a header, a line for each node in annotation order and a warning for each mismatch;
an empty line stands between two reports. A step is indented by its level times the indent width, a count kept in a
64-bit word; below level zero there is no indentation.
-/

namespace DefectTrail

open Text (spaces padLeft padRight)

/-! ## Text -/

/-- The number of spaces before a step's message. -/
def indentSpaces (indentWidth : Nat) (level : Int) : Nat := indentWidth * level.toNat % UInt64.size

namespace StepAnnotation

/-- The line of a step: number, mark, icon, band, indentation and message. -/
def line (s : StepAnnotation) (indentWidth : Nat) : String :=
  "    " ++ padLeft 3 (toString s.marker.index) ++ " " ++ padRight 5 s.marker.kind.wireName ++ " "
    ++ padRight 18 s.icon.label ++ " " ++ s.band ++ " " ++ spaces (indentSpaces indentWidth s.level) ++ s.event.msg

end StepAnnotation

namespace DisplayNode

/-- The line of a node, if it has one: a step without its annotation is not shown. An item without its datum is shown
at line zero. -/
def line? (n : DisplayNode) (indentWidth : Nat) : Option String :=
  match n.kind with
  | .bug | .expansions | .notes => some ("  " ++ n.name)
  | .expansionItem | .noteItem =>
    let startLine : Int := (n.datum.map (·.startLine.toInt)).getD 0
    some ("    L" ++ padRight 5 (toString startLine) ++ " " ++ n.name)
  | .step => n.step.map (·.line indentWidth)

end DisplayNode

namespace AnnotatedReport

/-- The first line of a report; a checker without a name is shown as a dash. -/
def headerLine (r : AnnotatedReport) : String :=
  "Report " ++ toString r.report.reportId.toInt ++ " ["
    ++ (if r.report.checkerId = "" then "-" else r.report.checkerId) ++ "]"

/-- All lines of a report. -/
def lines (r : AnnotatedReport) (indentWidth : Nat) : List String :=
  r.headerLine :: (r.nodes.filterMap (·.line? indentWidth) ++ r.mismatches.map fun m => "  warning: " ++ m.text)

/-- The lines of a report, each with its line break. -/
def text (r : AnnotatedReport) (indentWidth : Nat) : String :=
  String.join ((r.lines indentWidth).map (· ++ "\n"))

end AnnotatedReport

/-- The reports as text. -/
def renderText (reports : List AnnotatedReport) (indentWidth : Nat) : String :=
  "\n".intercalate (reports.map (·.text indentWidth))

/-! ## JSON -/

/-- The reports as one array, in the pretty layout. -/
def renderJson (reports : List AnnotatedReport) : String :=
  (Json.array (reports.map AnnotatedReport.toJson)).pretty

/-- Each report on a line of its own. -/
def renderJsonLines (reports : List AnnotatedReport) : String :=
  String.join (reports.map fun r => r.toJson.compact ++ "\n")

/-! ## Formats -/

/-- The forms of output. -/
inductive Format where
  | text
  | json
  | jsonl
  deriving DecidableEq, Repr

namespace Format

/-- All formats. -/
def all : List Format := [text, json, jsonl]

/-- The name that a format is asked for by. -/
def name : Format → String
  | text => "text"
  | json => "json"
  | jsonl => "jsonl"

/-- The format with the given name. -/
def ofName? (name : String) : Option Format := all.find? (·.name = name)

/-- The reports in a format; only text is indented. -/
def render (format : Format) (reports : List AnnotatedReport) (indentWidth : Nat) : String :=
  match format with
  | text => renderText reports indentWidth
  | json => renderJson reports
  | jsonl => renderJsonLines reports

end Format

end DefectTrail
