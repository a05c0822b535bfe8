import DefectTrail.Node
import DefectTrail.Step.Walk
import DefectTrail.Text.Occurrence

/-!
# Annotation

A report and its details become display nodes: the group of expansions and that of notes, if they have members, then
the defect itself, then one node for each event of the path. Group members are sorted by their line, those of one
line in the order given; data of other kinds are not shown. The last event is the result and marked as the error.
-/

namespace DefectTrail

/-- How reports are annotated. -/
structure AnnotateOptions where
  palette : Palette
  /-- The text that marks an event as a suggested fix. -/
  fixitMarker : String
  strictAllocationReturns : Bool

namespace AnnotateOptions

/-- The options used where none are given. -/
def default : AnnotateOptions := ⟨Palette.default, " (fixit)", false⟩

/-- The options that concern the call stack. -/
def stackRules (o : AnnotateOptions) : StackRules := ⟨o.palette, o.strictAllocationReturns⟩

end AnnotateOptions

namespace ReportSummary

/-- The beginning of the ids of the report's nodes of one kind. -/
def nodeId (r : ReportSummary) (kind : NodeKind) : String := toString r.reportId.toInt ++ "_" ++ kind.wireName

end ReportSummary

/-! ## Groups -/

/-- A kind of data that is shown as a group. -/
structure DatumGroup where
  datumKind : DatumKind
  header : NodeKind
  item : NodeKind
  title : String

namespace DatumGroup

/-- The group of expansions of preprocessor names. -/
def expansions : DatumGroup := ⟨.expansion, .expansions, .expansionItem, "Macro expansions"⟩

/-- The group of notes. -/
def notes : DatumGroup := ⟨.note, .notes, .noteItem, "Notes"⟩

/-- The group's data in the order shown. -/
def members (g : DatumGroup) (data : List Datum) : List Datum :=
  (data.filter fun d => d.kind = g.datumKind).mergeSort fun a b => decide (a.startLine ≤ b.startLine)

/-- The node of a member at its position in the group. -/
def itemNode (g : DatumGroup) (report : ReportSummary) (index : Nat) (d : Datum) : DisplayNode :=
  ⟨report.nodeId g.header ++ "_" ++ toString index, d.message, g.item, some d, none⟩

/-- The group's nodes; a group without members has none. -/
def nodes (g : DatumGroup) (report : ReportSummary) (data : List Datum) : List DisplayNode :=
  match g.members data with
  | [] => []
  | members => .plain (report.nodeId g.header) g.title g.header :: members.mapIdx (g.itemNode report)

end DatumGroup

/-- The nodes of all groups. -/
def dataNodes (report : ReportSummary) (data : List Datum) : List DisplayNode :=
  DatumGroup.expansions.nodes report data ++ DatumGroup.notes.nodes report data

theorem DatumGroup.step_eq_none {g : DatumGroup} {report : ReportSummary} {data : List Datum} {n : DisplayNode}
    (h : n ∈ g.nodes report data) : n.step = none := by
  unfold nodes at h
  split at h
  · cases h
  · rcases List.mem_cons.1 h with rfl | h
    · rfl
    · obtain ⟨i, hi, rfl⟩ := List.mem_mapIdx.1 h
      rfl

theorem filterMap_step_dataNodes (report : ReportSummary) (data : List Datum) :
    (dataNodes report data).filterMap (·.step) = [] := by
  rw [List.filterMap_eq_nil_iff]
  intro n hn
  rcases List.mem_append.1 hn with hn | hn <;> exact DatumGroup.step_eq_none hn

/-! ## Steps -/

/-- The mark of the event at a position counted from zero. -/
def stepMarker (msg : String) (index : Nat) (isResult : Bool) (fixitMarker : String) : StepMarker :=
  ⟨index + 1, if isResult then .error else if Text.occursIn fixitMarker.toList msg.toList then .fixit else .info⟩

/-- The nodes of a path, its mismatches, and what is logged on the way. -/
structure AnnotatedPath where
  nodes : List DisplayNode
  mismatches : List StackMismatch
  log : List LogRecord

/-- The annotated steps among the nodes. -/
def AnnotatedPath.steps (p : AnnotatedPath) : List StepAnnotation := p.nodes.filterMap (·.step)

/-- What is shown of the event at a position of a path of `count` events. -/
def annotateStep (options : AnnotateOptions) (count index : Nat) (event : Event) (t : TracedStep) : StepAnnotation :=
  ⟨event, t.classified.icon, stepMarker event.msg index (index + 1 == count) options.fixitMarker, t.classified.band,
    t.level⟩

/-- The node of the event at a position of a path of `count` events. -/
def stepNode (report : ReportSummary) (options : AnnotateOptions) (count index : Nat) (event : Event)
    (t : TracedStep) : DisplayNode :=
  ⟨report.nodeId .step ++ "_" ++ toString index, report.checkerMsg, .step, none,
    some (annotateStep options count index event t)⟩

/-- Annotates the events of a path. -/
def annotatePathEvents (report : ReportSummary) (events : List Event) (options : AnnotateOptions) : AnnotatedPath :=
  let steps := Walk.start.trace options.stackRules (events.map (·.msg))
  ⟨(events.zip steps).mapIdx fun i (event, step) => stepNode report options events.length i event step,
    steps.filterMap (·.classified.mismatch), steps.flatMap (·.classified.log)⟩

theorem steps_annotatePathEvents (report : ReportSummary) (events : List Event) (options : AnnotateOptions) :
    (annotatePathEvents report events options).steps =
      (events.zip (Walk.start.trace options.stackRules (events.map (·.msg)))).mapIdx fun i (event, step) =>
        annotateStep options events.length i event step := by
  simp only [AnnotatedPath.steps, annotatePathEvents, List.mapIdx_eq_zipIdx_map, List.filterMap_map]
  exact congrFun List.filterMap_eq_map _

/-- The step of the event at a position is taken from where the messages before it lead. -/
theorem getElem?_steps (report : ReportSummary) (events : List Event) (options : AnnotateOptions) (i : Nat) :
    (annotatePathEvents report events options).steps[i]? = events[i]?.map fun event =>
      annotateStep options events.length i event
        ((Walk.start.after options.stackRules ((events.map (·.msg)).take i)).step options.stackRules event.msg).1 := by
  rw [steps_annotatePathEvents, List.getElem?_mapIdx, List.zip, List.getElem?_zipWith, Walk.getElem?_trace,
    List.getElem?_map]
  cases events[i]? <;> rfl

theorem length_steps (report : ReportSummary) (events : List Event) (options : AnnotateOptions) :
    (annotatePathEvents report events options).steps.length = events.length := by
  simp [steps_annotatePathEvents]

/-! ## Reports -/

/-- A result with what was logged while it was found. -/
structure Logged (α : Type) where
  value : α
  log : List LogRecord

namespace AnnotatedReport

/-- The record that closes the annotation of a report. -/
def logRecord (r : AnnotatedReport) : LogRecord :=
  let s := r.summary
  ⟨.debug, "report " ++ toString r.report.reportId.toInt ++ ": " ++ toString s.steps ++ " step(s), max level "
    ++ toString s.maxLevel ++ ", " ++ toString s.mismatches ++ " stack mismatch(es)"⟩

end AnnotatedReport

namespace Bundle

/-- Annotates a report. -/
def annotate (b : Bundle) (options : AnnotateOptions) : Logged AnnotatedReport :=
  let path := annotatePathEvents b.report b.details.pathEvents options
  let annotated : AnnotatedReport :=
    ⟨b.report,
      dataNodes b.report b.details.extendedData
        ++ .plain (b.report.nodeId .bug) b.report.checkerMsg .bug :: path.nodes,
      path.mismatches⟩
  ⟨annotated, path.log ++ [annotated.logRecord]⟩

theorem steps_annotate (b : Bundle) (options : AnnotateOptions) :
    (b.annotate options).value.steps = (annotatePathEvents b.report b.details.pathEvents options).steps := by
  simp only [annotate, AnnotatedReport.steps, List.filterMap_append, filterMap_step_dataNodes, List.nil_append]
  rfl

/-- The nodes of a report that is annotated with the default options. -/
def defaultNodes (b : Bundle) : List DisplayNode := (b.annotate .default).value.nodes

/-- Annotates bundles one by one. -/
def annotateAll (bundles : List Bundle) (options : AnnotateOptions) : Logged (List AnnotatedReport) :=
  let results := bundles.map (·.annotate options)
  ⟨results.map (·.value), results.flatMap (·.log)⟩

end Bundle

end DefectTrail
