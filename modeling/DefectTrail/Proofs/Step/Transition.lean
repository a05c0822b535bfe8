import DefectTrail.Step.Walk
import Mathlib.Data.List.Sort

/-!
# What a step does to the open calls

* `CallStack.Takes` : the ways in which a step can go, each with its condition; `CallStack.takes_take` says that
  `take` goes one of them, so later proofs split a step by `Takes` and do not open `take`;
* `stackAt`, `classifiedAt?` : the open calls before the step at a position of a path, and what is found out about it;
  `takes_at` is the step at a position, `classifiedAt?_of_none` and `stackAt_succ_of_none` say that there is nothing
  beyond the end of the path;
* `levelAt` : the level before the step at a position; `stack_after_take` : the same calls seen from a walk.
-/

namespace DefectTrail

namespace StepKind

/-- The icon of a kind that leaves the open calls alone. -/
def quietIcon? : StepKind → Option StepIcon
  | .calling _ | .returning _ | .returnedAllocatedMemory => none
  | .enteredCall => some .enteredCall
  | .assumingCondition => some .assumingCondition
  | .assuming => some .assuming
  | .enteringLoopBody => some .enteringLoopBody
  | .loopBodyExecuted => some .loopBodyExecuted
  | .loopBack => some .loopBack
  | .plain => some .default

theorem ne_calling_of_quietIcon? {kind : StepKind} {icon : StepIcon} (h : kind.quietIcon? = some icon) :
    icon ≠ .calling ∧ icon ≠ .returning := by
  cases kind <;> cases h <;> decide

end StepKind

/-! ## One step -/

namespace CallStack

/-- The ways in which a step of a kind goes, with what is found out about it and the calls after it. -/
inductive Takes (s : CallStack) (rules : StackRules) : StepKind → Classified → CallStack → Prop where
  /-- A call is opened. -/
  | opens (function : String) :
      Takes s rules (.calling function) ⟨s.band rules.palette, .calling, none, []⟩
        ⟨function :: s.openCalls, s.openCalls.length + 1, s.steps + 1⟩
  /-- A return closes the innermost open call. -/
  | closes (kind : StepKind) (function : String) (rest : List String) (hopen : s.openCalls = function :: rest)
      (hkind : kind = .returning function ∨ kind = .returnedAllocatedMemory) :
      Takes s rules kind ⟨s.band rules.palette, .returning, none, []⟩ ⟨rest, rest.length, s.steps + 1⟩
  /-- An allocation return is accepted although no call is open. -/
  | closesNothing (hopen : s.openCalls = []) (hlax : rules.strictAllocationReturns = false) :
      Takes s rules .returnedAllocatedMemory ⟨s.band rules.palette, .returning, none, []⟩ ⟨[], 0, s.steps + 1⟩
  /-- A return names another function than the innermost open call. -/
  | refusesReturn (function : String) (htop : s.top ≠ some function) :
      Takes s rules (.returning function) (s.refuse rules (some function)).1 { s with steps := s.steps + 1 }
  /-- An allocation return finds no open call. -/
  | refusesRelease (hopen : s.openCalls = []) (hstrict : rules.strictAllocationReturns = true) :
      Takes s rules .returnedAllocatedMemory (s.refuse rules none).1 { s with steps := s.steps + 1 }
  /-- The open calls are left alone. -/
  | passes (kind : StepKind) (icon : StepIcon) (hkind : kind.quietIcon? = some icon) :
      Takes s rules kind ⟨s.band rules.palette, icon, none, []⟩ { s with steps := s.steps + 1 }

theorem takes_take (s : CallStack) (rules : StackRules) (kind : StepKind) :
    s.Takes rules kind (s.take rules kind).1 (s.take rules kind).2 := by
  cases kind with
  | calling function => exact Takes.opens function
  | returning function =>
      rw [take]
      split_ifs with htop
      · obtain ⟨rest, hopen⟩ := List.head?_eq_some_iff.1 htop
        rw [hopen, List.tail_cons]
        exact Takes.closes _ function rest hopen (Or.inl rfl)
      · exact Takes.refusesReturn function htop
  | returnedAllocatedMemory =>
      rw [take]
      split_ifs with h
      · exact Takes.refusesRelease h.2 h.1
      · cases hopen : s.openCalls with
        | nil =>
            rw [not_and'] at h
            exact Takes.closesNothing hopen (Bool.eq_false_iff.2 (h hopen))
        | cons function rest => exact Takes.closes _ function rest hopen (Or.inr rfl)
  | _ => exact Takes.passes _ _ rfl

theorem take_of_quietIcon? (s : CallStack) (rules : StackRules) {kind : StepKind} {icon : StepIcon}
    (h : kind.quietIcon? = some icon) : s.take rules kind = s.pass rules icon := by
  cases kind <;> cases h <;> rfl

/-- Whatever a step does, the next position is one further. -/
theorem Takes.steps_eq {s next : CallStack} {rules : StackRules} {kind : StepKind} {c : Classified}
    (h : s.Takes rules kind c next) : next.steps = s.steps + 1 := by
  cases h <;> rfl

end CallStack

/-! ## The step at a position of a path -/

/-- The calls open before the step at a position. -/
def stackAt (rules : StackRules) (messages : List String) (i : Nat) : CallStack :=
  CallStack.start.after rules (messages.take i)

/-- What is found out about the step at a position. -/
def classifiedAt? (rules : StackRules) (messages : List String) (i : Nat) : Option Classified :=
  messages[i]?.map fun m => ((stackAt rules messages i).classify rules m).1

/-- The kind of the step at a position. -/
def kindAt? (messages : List String) (i : Nat) : Option StepKind := messages[i]?.map StepKind.ofMessage

/-- The icon of the step at a position. -/
def iconAt? (rules : StackRules) (messages : List String) (i : Nat) : Option StepIcon :=
  (classifiedAt? rules messages i).map (·.icon)

/-- The level before the step at a position. -/
def levelAt (rules : StackRules) (messages : List String) (i : Nat) : Int :=
  (Walk.start.after rules (messages.take i)).level

section
variable {rules : StackRules} {messages : List String} {i : Nat}

theorem stack_after_take : (Walk.start.after rules (messages.take i)).stack = stackAt rules messages i :=
  Walk.stack_after ..

theorem stackAt_succ {m : String} (h : messages[i]? = some m) :
    stackAt rules messages (i + 1) = ((stackAt rules messages i).classify rules m).2 := by
  rw [stackAt, List.take_add_one, h, Option.toList_some, CallStack.after_append]
  rfl

theorem stackAt_succ_of_none (h : messages[i]? = none) : stackAt rules messages (i + 1) = stackAt rules messages i := by
  rw [stackAt, List.take_add_one, h, Option.toList_none, List.append_nil]
  rfl

theorem classifiedAt?_of_none (h : messages[i]? = none) : classifiedAt? rules messages i = none := by
  rw [classifiedAt?, h, Option.map_none]

/-- The step at a position goes one of the ways. -/
theorem takes_at (rules : StackRules) {m : String} (h : messages[i]? = some m) :
    ∃ c next, classifiedAt? rules messages i = some c ∧ stackAt rules messages (i + 1) = next ∧
      (stackAt rules messages i).Takes rules (.ofMessage m) c next := by
  refine ⟨((stackAt rules messages i).classify rules m).1, _, by rw [classifiedAt?, h, Option.map_some],
    stackAt_succ h, ?_⟩
  exact CallStack.takes_take _ _ _

theorem levelAt_succ_of_none (h : messages[i]? = none) : levelAt rules messages (i + 1) = levelAt rules messages i := by
  rw [levelAt, List.take_add_one, h, Option.toList_none, List.append_nil]
  rfl

theorem levelAt_succ {c : Classified} (h : classifiedAt? rules messages i = some c) :
    levelAt rules messages (i + 1) = levelAt rules messages i + c.icon.levelChange := by
  obtain ⟨m, hm, rfl⟩ := Option.map_eq_some_iff.1 h
  rw [levelAt, Walk.after_take_succ _ _ hm, ← stack_after_take]
  rfl

theorem steps_stackAt (rules : StackRules) (h : i ≤ messages.length) : (stackAt rules messages i).steps = i := by
  induction i with
  | zero => rfl
  | succ i ih =>
      obtain ⟨c, next, -, hnext, htakes⟩ := takes_at rules (List.getElem?_eq_getElem (show i < messages.length from h))
      rw [hnext, htakes.steps_eq, ih (Nat.le_of_succ_le h)]

end

end DefectTrail
