import DefectTrail.Step.CallStack

/-!
# Walking along a path

A walk goes through the messages of a path in order. Its state is the call stack and the indentation level, which an
entered call raises and a return lowers; on a malformed path the level may fall below zero.
-/

namespace DefectTrail

/-- A classified step with the level it is drawn at. -/
structure TracedStep where
  classified : Classified
  level : Int
  deriving DecidableEq, Repr

/-- The state between two steps. -/
structure Walk where
  stack : CallStack
  level : Int
  deriving DecidableEq, Repr

namespace Walk

/-- The state before the first step. -/
def start : Walk := ⟨CallStack.start, 0⟩

/-- Takes one step; the step is drawn at the level it leads to. -/
def step (w : Walk) (rules : StackRules) (message : String) : TracedStep × Walk :=
  let (classified, stack) := w.stack.classify rules message
  let level := w.level + classified.icon.levelChange
  (⟨classified, level⟩, ⟨stack, level⟩)

/-- The steps of a path. -/
def trace (w : Walk) (rules : StackRules) : List String → List TracedStep
  | [] => []
  | m :: ms =>
    let (traced, next) := w.step rules m
    traced :: next.trace rules ms

/-- The state after a path. -/
def after (w : Walk) (rules : StackRules) (messages : List String) : Walk :=
  messages.foldl (fun w m => (w.step rules m).2) w

/-! ## Paths in two parts -/

@[simp] theorem trace_nil (w : Walk) (rules : StackRules) : w.trace rules [] = [] := rfl

@[simp] theorem trace_cons (w : Walk) (rules : StackRules) (m : String) (ms : List String) :
    w.trace rules (m :: ms) = (w.step rules m).1 :: (w.step rules m).2.trace rules ms := rfl

@[simp] theorem after_nil (w : Walk) (rules : StackRules) : w.after rules [] = w := rfl

@[simp] theorem after_cons (w : Walk) (rules : StackRules) (m : String) (ms : List String) :
    w.after rules (m :: ms) = (w.step rules m).2.after rules ms := rfl

theorem after_append (w : Walk) (rules : StackRules) (xs ys : List String) :
    w.after rules (xs ++ ys) = (w.after rules xs).after rules ys :=
  List.foldl_append

@[simp] theorem length_trace (w : Walk) (rules : StackRules) (ms : List String) :
    (w.trace rules ms).length = ms.length := by
  induction ms generalizing w with
  | nil => rfl
  | cons m ms ih => simp [ih]

theorem trace_append (w : Walk) (rules : StackRules) (xs ys : List String) :
    w.trace rules (xs ++ ys) = w.trace rules xs ++ (w.after rules xs).trace rules ys := by
  induction xs generalizing w with
  | nil => rfl
  | cons m xs ih => simp [ih]

theorem stack_after (w : Walk) (rules : StackRules) (ms : List String) :
    (w.after rules ms).stack = w.stack.after rules ms := by
  induction ms generalizing w with
  | nil => rfl
  | cons m ms ih => exact ih _

/-! ## The step at a position -/

theorem trace_take (w : Walk) (rules : StackRules) (ms : List String) (i : Nat) :
    w.trace rules (ms.take i) = (w.trace rules ms).take i := by
  induction ms generalizing w i with
  | nil => simp
  | cons m ms ih =>
    cases i with
    | zero => rfl
    | succ i => simp [ih]

theorem after_take_succ (w : Walk) (rules : StackRules) {ms : List String} {i : Nat} {m : String}
    (h : ms[i]? = some m) : w.after rules (ms.take (i + 1)) = ((w.after rules (ms.take i)).step rules m).2 := by
  rw [List.take_add_one, h, Option.toList_some, after_append]
  rfl

theorem getElem?_trace (w : Walk) (rules : StackRules) (ms : List String) (i : Nat) :
    (w.trace rules ms)[i]? = ms[i]?.map fun m => ((w.after rules (ms.take i)).step rules m).1 := by
  induction ms generalizing w i with
  | nil => simp
  | cons m ms ih =>
    cases i with
    | zero => rfl
    | succ i => simp [ih]

end Walk

end DefectTrail
