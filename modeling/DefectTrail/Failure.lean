import DefectTrail.Config
import DefectTrail.FileTree.Path

/-!
# Failures

What can go wrong between a path and its annotated reports. A failure has a chain of messages, from the outside in,
and a cause that tells what kind of input was at fault.
-/

namespace DefectTrail

/-- The kind of input at fault. -/
inductive Cause where
  /-- A text that is no JSON, or no JSON of the expected shape. -/
  | json
  /-- A file that cannot be read. -/
  | io
  /-- A pattern that is no glob. -/
  | glob
  /-- A directory that cannot be read. -/
  | walk
  /-- A value that is not allowed. -/
  | invalid
  deriving DecidableEq, Repr

namespace Config.Fault

/-- The kind of input that a fault lies in. -/
def cause : Fault → Cause
  | badPattern _ | refusedPatterns _ => .glob
  | _ => .invalid

end Config.Fault

/-- Why there are no settings or no annotated reports. -/
inductive Failure where
  | badSettings (fault : Config.Fault)
  | unreadableConfig (path : Path)
  | malformedConfig (path : Path)
  | badConfig (path : Path) (fault : Config.Fault)
  | missingPath (path : Path)
  | unreadableDirectory (path : Path)
  | unreadableReports (path : Path)
  | malformedReports (path : Path)
  deriving DecidableEq, Repr

namespace Failure

/-- What a document that holds no bundles is reported as. -/
def notBundles : String := "expected a report bundle or an array of bundles"

/-- The failure in words, from the outside in. -/
def messages : Failure → List String
  | badSettings fault => fault.messages
  | unreadableConfig path => ["failed to read config file: " ++ path.text]
  | malformedConfig path => ["failed to parse config file: " ++ path.text]
  | badConfig path fault => ("invalid config in: " ++ path.text) :: fault.messages
  | missingPath path => ["Path does not exist: " ++ path.text]
  | unreadableDirectory path => ["Failed to read directory: " ++ path.text]
  | unreadableReports path => ["failed to read report file: " ++ path.text]
  | malformedReports path => ["failed to parse report file: " ++ path.text, notBundles]

/-- The kind of input that the failure lies in. -/
def cause : Failure → Cause
  | badSettings fault | badConfig _ fault => fault.cause
  | unreadableConfig _ | unreadableReports _ => .io
  | malformedConfig _ | malformedReports _ => .json
  | unreadableDirectory _ => .walk
  | missingPath _ => .invalid

/-- The outermost message. -/
def headline (f : Failure) : String :=
  match f with
  | badSettings fault => fault.messages.headD fault.reason
  | f => f.messages.headD ""

end Failure

end DefectTrail
