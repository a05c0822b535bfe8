import DefectTrail.Log
import DefectTrail.Palette
import DefectTrail.Step.Icon
import DefectTrail.Step.Kind

/-!
# The call stack of a path

`CallStack.classify` takes one step of a path: it finds the step's icon and band and opens or closes a call. The band
is kept with the open calls and chosen anew only when a call opens or a return is accepted; a step is drawn in the
band that was current before its own transition. A return that does not fit the innermost open call is a mismatch: it
is reported and leaves the open calls as they are. An allocation return with no open call is a mismatch only for
strict rules; otherwise it is a return that closes nothing.
-/

namespace DefectTrail

/-- A return that does not fit the open calls. -/
structure StackMismatch where
  /-- The position of the step, counted from zero. -/
  stepIndex : Nat
  /-- The function that the step names; an allocation return names none. -/
  returnedFrom : Option String
  /-- The innermost call open at that point. -/
  stackTop : Option String
  deriving DecidableEq, Repr

namespace StackMismatch

/-- The mismatch in words. -/
def text (m : StackMismatch) : String :=
  let start := "step " ++ toString m.stepIndex ++ ": returned from '"
    ++ m.returnedFrom.getD "<allocated memory>" ++ "'"
  match m.stackTop with
  | some top => start ++ " while the innermost open call was '" ++ top ++ "'"
  | none => start ++ " with no open call"

/-- The warning that a mismatch is logged with. -/
def logRecord (m : StackMismatch) : LogRecord := ⟨.warn, "stack mismatch at " ++ m.text⟩

end StackMismatch

/-- How steps are classified. -/
structure StackRules where
  palette : Palette
  strictAllocationReturns : Bool

/-- What is found out about one step, and what is logged for it. -/
structure Classified where
  band : String
  icon : StepIcon
  mismatch : Option StackMismatch
  log : List LogRecord
  deriving DecidableEq, Repr

/-- The calls that are open, innermost first, after some number of steps. -/
structure CallStack where
  openCalls : List String
  /-- The number of open calls that the current band was chosen for. -/
  bandDepth : Nat
  steps : Nat
  deriving DecidableEq, Repr

namespace CallStack

/-- No step is taken and no call is open. -/
def start : CallStack := ⟨[], 0, 0⟩

/-- The number of open calls. -/
def depth (s : CallStack) : Nat := s.openCalls.length

/-- The innermost open call. -/
def top (s : CallStack) : Option String := s.openCalls.head?

/-- The band that the next step is drawn in. -/
def band (s : CallStack) (palette : Palette) : String := palette.color s.bandDepth

/-- The step is taken; the open calls and the band stay as they are. -/
def pass (s : CallStack) (rules : StackRules) (icon : StepIcon) : Classified × CallStack :=
  (⟨s.band rules.palette, icon, none, []⟩, { s with steps := s.steps + 1 })

/-- The step is taken, the given calls are open after it, and the band is chosen anew for them. -/
def turn (s : CallStack) (rules : StackRules) (icon : StepIcon) (openCalls : List String) : Classified × CallStack :=
  (⟨s.band rules.palette, icon, none, []⟩, ⟨openCalls, openCalls.length, s.steps + 1⟩)

/-- The step is a return that does not fit. -/
def refuse (s : CallStack) (rules : StackRules) (returnedFrom : Option String) : Classified × CallStack :=
  let mismatch : StackMismatch := ⟨s.steps, returnedFrom, s.top⟩
  (⟨s.band rules.palette, .default, some mismatch, [mismatch.logRecord]⟩, { s with steps := s.steps + 1 })

/-- Takes a step of the given kind. -/
def take (s : CallStack) (rules : StackRules) : StepKind → Classified × CallStack
  | .calling function => s.turn rules .calling (function :: s.openCalls)
  | .enteredCall => s.pass rules .enteredCall
  | .returning function =>
    if s.top = some function then s.turn rules .returning s.openCalls.tail else s.refuse rules (some function)
  | .returnedAllocatedMemory =>
    if rules.strictAllocationReturns ∧ s.openCalls = [] then s.refuse rules none
    else s.turn rules .returning s.openCalls.tail
  | .assumingCondition => s.pass rules .assumingCondition
  | .assuming => s.pass rules .assuming
  | .enteringLoopBody => s.pass rules .enteringLoopBody
  | .loopBodyExecuted => s.pass rules .loopBodyExecuted
  | .loopBack => s.pass rules .loopBack
  | .plain => s.pass rules .default

/-- Takes the step with the given message. -/
def classify (s : CallStack) (rules : StackRules) (message : String) : Classified × CallStack :=
  s.take rules (StepKind.ofMessage message)

@[simp] theorem refuse_icon (s : CallStack) (rules : StackRules) (returnedFrom : Option String) :
    (s.refuse rules returnedFrom).1.icon = .default := rfl

@[simp] theorem refuse_band (s : CallStack) (rules : StackRules) (returnedFrom : Option String) :
    (s.refuse rules returnedFrom).1.band = s.band rules.palette := rfl

@[simp] theorem refuse_mismatch (s : CallStack) (rules : StackRules) (returnedFrom : Option String) :
    (s.refuse rules returnedFrom).1.mismatch = some ⟨s.steps, returnedFrom, s.top⟩ := rfl

/-! ## Paths -/

/-- The calls after a path. -/
def after (s : CallStack) (rules : StackRules) (messages : List String) : CallStack :=
  messages.foldl (fun s m => (s.classify rules m).2) s

@[simp] theorem after_nil (s : CallStack) (rules : StackRules) : s.after rules [] = s := rfl

@[simp] theorem after_cons (s : CallStack) (rules : StackRules) (m : String) (ms : List String) :
    s.after rules (m :: ms) = (s.classify rules m).2.after rules ms := rfl

theorem after_append (s : CallStack) (rules : StackRules) (xs ys : List String) :
    s.after rules (xs ++ ys) = (s.after rules xs).after rules ys :=
  List.foldl_append

end CallStack

end DefectTrail
