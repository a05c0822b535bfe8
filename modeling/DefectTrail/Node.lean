import DefectTrail.Report
import DefectTrail.Step.CallStack

/-!
# Display nodes

What a tree view shows of a report: a flat, ordered list of nodes. A node of a step carries the annotated step, an
item of a group its datum.
-/

namespace DefectTrail

/-- What a node stands for: the defect itself, a group or an item of it, or a step of the path. -/
inductive NodeKind where
  | bug
  | expansions
  | expansionItem
  | notes
  | noteItem
  | step
  deriving DecidableEq, Repr

namespace NodeKind

/-- All kinds, in declared order. -/
def all : List NodeKind := [bug, expansions, expansionItem, notes, noteItem, step]

/-- The name in documents, which is also a part of node ids. -/
def wireName : NodeKind → String
  | bug => "bug"
  | expansions => "macro"
  | expansionItem => "macro_item"
  | notes => "note"
  | noteItem => "note_item"
  | step => "steps"

/-- The kind with the given name in documents. -/
def ofWireName? (name : String) : Option NodeKind := all.find? (·.wireName = name)

theorem ofWireName?_wireName (kind : NodeKind) : ofWireName? kind.wireName = some kind := by
  cases kind <;> rfl

end NodeKind

/-- What is marked next to a step, whatever its icon. -/
inductive MarkerKind where
  | error
  | fixit
  | info
  deriving DecidableEq, Repr

namespace MarkerKind

/-- All kinds, in declared order. -/
def all : List MarkerKind := [error, fixit, info]

/-- The name in documents and in text output. -/
def wireName : MarkerKind → String
  | error => "error"
  | fixit => "fixit"
  | info => "info"

/-- The kind with the given name in documents. -/
def ofWireName? (name : String) : Option MarkerKind := all.find? (·.wireName = name)

theorem ofWireName?_wireName (kind : MarkerKind) : ofWireName? kind.wireName = some kind := by
  cases kind <;> rfl

end MarkerKind

/-- The number of a step, counted from one, with its mark. -/
structure StepMarker where
  index : Nat
  kind : MarkerKind
  deriving DecidableEq, Repr

/-- What is shown of a step. -/
structure StepAnnotation where
  event : Event
  icon : StepIcon
  marker : StepMarker
  band : String
  /-- The indentation level, below zero on a malformed path. -/
  level : Int
  deriving DecidableEq, Repr

/-- One node of the tree; its id is unique among the nodes of all reports. -/
structure DisplayNode where
  id : String
  name : String
  kind : NodeKind
  datum : Option Datum
  step : Option StepAnnotation
  deriving DecidableEq, Repr

/-- A node that carries neither a datum nor a step. -/
def DisplayNode.plain (id name : String) (kind : NodeKind) : DisplayNode := ⟨id, name, kind, none, none⟩

/-- A report with its nodes and the mismatches on its path. -/
structure AnnotatedReport where
  report : ReportSummary
  nodes : List DisplayNode
  mismatches : List StackMismatch
  deriving DecidableEq, Repr

/-- The figures of an annotated report. -/
structure AnnotationSummary where
  steps : Nat
  maxLevel : Int
  finalLevel : Int
  mismatches : Nat
  deriving DecidableEq, Repr

namespace AnnotatedReport

/-- The annotated steps among the nodes. -/
def steps (r : AnnotatedReport) : List StepAnnotation := r.nodes.filterMap (·.step)

/-- The figures of the report; a path without steps stays at level zero. -/
def summary (r : AnnotatedReport) : AnnotationSummary :=
  let levels := r.steps.map (·.level)
  ⟨levels.length, levels.max?.getD 0, levels.getLast?.getD 0, r.mismatches.length⟩

end AnnotatedReport

end DefectTrail
