/-!
# Log records

What a run reports about itself, as data: each record has a level and a text. A record is shown at a threshold when
its level is at least as severe.
-/

namespace DefectTrail

/-- The levels of log records, the most severe first. -/
inductive LogLevel where
  | error
  | warn
  | info
  | debug
  deriving DecidableEq, Repr

namespace LogLevel

/-- The number of levels more severe than this one. -/
def rank : LogLevel → Nat
  | error => 0
  | warn => 1
  | info => 2
  | debug => 3

/-- The level as it is shown. -/
def name : LogLevel → String
  | error => "ERROR"
  | warn => "WARN"
  | info => "INFO"
  | debug => "DEBUG"

end LogLevel

/-- One thing that a run reports about itself. -/
structure LogRecord where
  level : LogLevel
  text : String
  deriving DecidableEq, Repr

namespace LogRecord

/-- The records that a threshold lets through. -/
def shownAt (threshold : LogLevel) (log : List LogRecord) : List LogRecord :=
  log.filter fun r => decide (r.level.rank ≤ threshold.rank)

/-- A record as one line. -/
def line (r : LogRecord) : String := r.level.name ++ " " ++ r.text

end LogRecord

end DefectTrail
