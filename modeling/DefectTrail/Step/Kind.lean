/-!
# Step kinds

Analysers put the meaning of a step into its message. `StepKind.ofMessage` reads it off by nine rules, each a fixed
beginning or a fixed text; the first rule of `Rule.priority` that applies decides, and a message that none applies to
is plain.
-/

namespace DefectTrail

/-- What a step of a path says. -/
inductive StepKind where
  | calling (function : String)
  | enteredCall
  | returning (function : String)
  | returnedAllocatedMemory
  | assumingCondition
  | assuming
  | enteringLoopBody
  | loopBodyExecuted
  | loopBack
  | plain
  deriving DecidableEq, Repr

namespace StepKind

/-- A way to recognise a message. -/
inductive Rule where
  | calling
  | enteredCall
  | returning
  | returnedAllocatedMemory
  | assumingCondition
  | assuming
  | enteringLoopBody
  | loopBodyExecuted
  | loopBack
  deriving DecidableEq, Repr

/-- The name at the end of a call or return message, which a quote may close. -/
def dropClosingQuote (name : List Char) : List Char :=
  if name.getLast? = some '\'' then name.dropLast else name

namespace Rule

/-- The rules in the order in which they are tried. -/
def priority : List Rule :=
  [calling, enteredCall, returning, returnedAllocatedMemory, assumingCondition, assuming, enteringLoopBody,
    loopBodyExecuted, loopBack]

theorem mem_priority (rule : Rule) : rule ∈ priority := by
  cases rule <;> decide

/-- The text that a message begins with or consists of. -/
def text : Rule → String
  | calling => "Calling '"
  | enteredCall => "Entered call from "
  | returning => "Returning from '"
  | returnedAllocatedMemory => "Returned allocated memory"
  | assumingCondition => "Assuming the condition"
  | assuming => "Assuming"
  | enteringLoopBody => "Entering loop body"
  | loopBodyExecuted => "Loop body executed"
  | loopBack => "Looping back to the head of the loop"

/-- Whether the message has to be the rule's text and nothing more. -/
def isExact : Rule → Bool
  | returnedAllocatedMemory | enteringLoopBody | loopBack => true
  | _ => false

/-- The kind of a message that begins with the rule's text and goes on with `rest`. -/
def kind (rest : List Char) : Rule → StepKind
  | calling => .calling (String.ofList (dropClosingQuote rest))
  | enteredCall => .enteredCall
  | returning => .returning (String.ofList (dropClosingQuote rest))
  | returnedAllocatedMemory => .returnedAllocatedMemory
  | assumingCondition => .assumingCondition
  | assuming => .assuming
  | enteringLoopBody => .enteringLoopBody
  | loopBodyExecuted => .loopBodyExecuted
  | loopBack => .loopBack

/-- What the rule makes of a message, if it applies. -/
def kindOf? (rule : Rule) (message : String) : Option StepKind :=
  match rule.text.toList.isPrefixOf? message.toList with
  | some rest => if rule.isExact && !rest.isEmpty then none else some (rule.kind rest)
  | none => none

end Rule

/-- The kind that the first of the given rules to apply finds. -/
def ofRules (rules : List Rule) (message : String) : StepKind :=
  (rules.findSome? (·.kindOf? message)).getD .plain

/-- The kind of a message. -/
def ofMessage (message : String) : StepKind := ofRules Rule.priority message

end StepKind

end DefectTrail
