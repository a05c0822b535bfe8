import DefectTrail.Main
import DefectTrail.Proofs.Step.Indentation
import DefectTrail.Proofs.Step.Pairing
import DefectTrail.Proofs.Step.WellNested
import DefectTrail.Proofs.Step.Deletion
import DefectTrail.Proofs.Step.Mismatches
import DefectTrail.Proofs.Step.Strictness
import DefectTrail.Proofs.Json.Layout
import DefectTrail.Proofs.Collection
import DefectTrail.Proofs.FileTree.Walk
import DefectTrail.Proofs.Report.Document
import DefectTrail.Proofs.CommandLine.ConfiguredDirectory
import DefectTrail.Proofs.Report.Codec
import DefectTrail.Proofs.Node.Codec
import DefectTrail.Proofs.Rendering.Json
import DefectTrail.Proofs.Report.RoundTrip
import DefectTrail.Proofs.FileTree.Found
import DefectTrail.Proofs.Config.Resolve
import DefectTrail.Proofs.FileTree.Collected
import DefectTrail.Proofs.Rendering.Lines
import DefectTrail.Proofs.Config.Loading
import DefectTrail.Proofs.Config.Overrides
import DefectTrail.Proofs.CommandLine.Composition
import DefectTrail.Proofs.CommandLine.Diagnostics
import DefectTrail.Proofs.Annotation.NodeIds
import DefectTrail.Proofs.Annotation.NodeSequence
import DefectTrail.Proofs.Collection.FileByFile
import DefectTrail.Proofs.Report.Compatibility
import DefectTrail.Proofs.Annotation.GroupOrder
import DefectTrail.Proofs.Annotation.Beginning
import DefectTrail.Proofs.Rendering.Words
import DefectTrail.Proofs.Config.Excludes
import DefectTrail.Proofs.Step.Grammar
