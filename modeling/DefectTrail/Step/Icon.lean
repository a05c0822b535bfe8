/-!
# Step icons

The icon of a step, with the name it has in documents (`wireName`) and the one it has in text output (`label`), and
the change of the indentation level that comes with it.
-/

namespace DefectTrail

/-- The icon of a step. A mismatched return and a plain step have the default one. -/
inductive StepIcon where
  | default
  | calling
  | enteredCall
  | returning
  | assumingCondition
  | assuming
  | enteringLoopBody
  | loopBodyExecuted
  | loopBack
  deriving DecidableEq, Repr

namespace StepIcon

/-- All icons, in declared order. -/
def all : List StepIcon :=
  [default, calling, enteredCall, returning, assumingCondition, assuming, enteringLoopBody, loopBodyExecuted,
    loopBack]

/-- The name in documents. -/
def wireName : StepIcon → String
  | default => "DEFAULT"
  | calling => "CALLING"
  | enteredCall => "ENTERED_CALL"
  | returning => "RETURNING"
  | assumingCondition => "ASSUMING_CONDITION"
  | assuming => "ASSUMING"
  | enteringLoopBody => "ENTERING_LOOP_BODY"
  | loopBodyExecuted => "LOOP_BODY_EXECUTED"
  | loopBack => "LOOP_BACK"

/-- The name in text output. -/
def label : StepIcon → String
  | default => "default"
  | calling => "calling"
  | enteredCall => "entered_call"
  | returning => "returning"
  | assumingCondition => "assuming_condition"
  | assuming => "assuming"
  | enteringLoopBody => "entering_loop_body"
  | loopBodyExecuted => "loop_body_executed"
  | loopBack => "loop_back"

/-- The icon with the given name in documents. -/
def ofWireName? (name : String) : Option StepIcon := all.find? (·.wireName = name)

/-- Entering a call indents from the entry on; a return is already drawn at the caller's level. -/
def levelChange : StepIcon → Int
  | enteredCall => 1
  | returning => -1
  | _ => 0

theorem ofWireName?_wireName (icon : StepIcon) : ofWireName? icon.wireName = some icon := by
  cases icon <;> rfl

end StepIcon

end DefectTrail
