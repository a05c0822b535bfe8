import DefectTrail.Proofs.Step.DepthCounter
import DefectTrail.Proofs.Step.Recognition

/-!
# Well-nested paths

* `NestedPath` : a path made of blocks and of steps that neither open nor close a call; `NestedPath.messages` its
  messages, `NestedPath.blocks` the positions at which its blocks begin and end;
* `NestedPath.places_eq` : where its steps stand, found from the structure, agrees with counting the blocks around
  them;
* `Walk.after_messages`, `Walk.map_shown_trace` : such a path leads back to where it began, and every step of it is
  drawn as its place says;
* `nested_path_annotates_cleanly` : the statement as a whole, about annotated steps.
-/

namespace DefectTrail

/-- The kind neither opens, enters nor closes a call. -/
def StepKind.isNeutral : StepKind → Bool
  | .assumingCondition | .assuming | .enteringLoopBody | .loopBodyExecuted | .loopBack | .plain => true
  | .calling _ | .enteredCall | .returning _ | .returnedAllocatedMemory => false

theorem StepKind.exists_quietIcon?_of_isNeutral {kind : StepKind} (h : kind.isNeutral = true) :
    ∃ icon, kind.quietIcon? = some icon ∧ icon.levelChange = 0 := by
  cases kind with
  | calling | enteredCall | returning | returnedAllocatedMemory => cases h
  | _ => exact ⟨_, rfl, rfl⟩

/-! ## The paths -/

/-- How a block ends: by a return that names its function, or by an allocation return. -/
inductive Closing where
  | named
  | release

/-- The message of a return from the function. -/
def Closing.message (function : String) : Closing → String
  | named => "Returning from '" ++ function ++ "'"
  | release => "Returned allocated memory"

/-- A path in which every call is entered and closed, and every return closes a call. -/
inductive NestedPath where
  | nil
  | neutral (message : String) (hneutral : (StepKind.ofMessage message).isNeutral = true) (rest : NestedPath)
  | block (function caller : String) (body : NestedPath) (closing : Closing) (rest : NestedPath)

/-- The positions of a call and of the return that closes it. -/
structure Block where
  call : Nat
  closing : Nat

/-- Where a step stands: the number of blocks around it, and whether it closes one. -/
structure Place where
  nesting : Nat
  closes : Bool

/-- The place of the step at a position among the given blocks. -/
def placeAmong (blocks : List Block) (i : Nat) : Place :=
  ⟨blocks.countP fun b => decide (b.call < i ∧ i < b.closing), blocks.any fun b => b.closing == i⟩

namespace Place

/-- Outside of every block. -/
def outer : Place := ⟨0, false⟩

/-- The entry of a block that no other is around. -/
def entry : Place := ⟨1, false⟩

/-- The end of a block that no other is around. -/
def exit : Place := ⟨0, true⟩

/-- The same place in the body of one more block. -/
def deeper (p : Place) : Place := { p with nesting := p.nesting + 1 }

end Place

namespace NestedPath

/-- The messages of the steps. -/
def messages : NestedPath → List String
  | nil => []
  | neutral message _ rest => message :: rest.messages
  | block function caller body closing rest =>
    ("Calling '" ++ function ++ "'") :: ("Entered call from " ++ caller) ::
      (body.messages ++ closing.message function :: rest.messages)

/-- The number of steps. -/
def length (t : NestedPath) : Nat := t.messages.length

/-- The blocks of a path whose first step is at position `start`. -/
def blocks (start : Nat) : NestedPath → List Block
  | nil => []
  | neutral _ _ rest => rest.blocks (start + 1)
  | block _ _ body _ rest =>
    ⟨start, start + 2 + body.length⟩ :: (body.blocks (start + 2) ++ rest.blocks (start + 2 + body.length + 1))

/-- The places of the steps, following the structure of the path. -/
def places : NestedPath → List Place
  | nil => []
  | neutral _ _ rest => .outer :: rest.places
  | block _ _ body _ rest => .outer :: .entry :: (body.places.map Place.deeper ++ .exit :: rest.places)

@[simp] theorem length_nil : nil.length = 0 := rfl

@[simp] theorem length_neutral (message : String) (h : (StepKind.ofMessage message).isNeutral = true)
    (rest : NestedPath) : (neutral message h rest).length = rest.length + 1 := rfl

@[simp] theorem length_block (function caller : String) (body : NestedPath) (closing : Closing) (rest : NestedPath) :
    (block function caller body closing rest).length = 2 + body.length + 1 + rest.length := by
  simp only [length, messages, List.length_cons, List.length_append]
  omega

/-! ## Counting blocks -/

theorem bounds_of_mem_blocks {t : NestedPath} {start : Nat} {b : Block} (h : b ∈ t.blocks start) :
    start ≤ b.call ∧ b.call < b.closing ∧ b.closing < start + t.length := by
  induction t generalizing start with
  | nil => cases h
  | neutral message hneutral rest ih =>
      have hrest := ih h
      rw [length_neutral]
      omega
  | block function caller body closing rest ihbody ihrest =>
      rw [blocks, List.mem_cons, List.mem_append] at h
      rw [length_block]
      rcases h with rfl | h | h
      · dsimp only
        omega
      · have hbody := ihbody h
        omega
      · have hrest := ihrest h
        omega

theorem placeAmong_blocks_of_outside (t : NestedPath) {start i : Nat} (h : i < start ∨ start + t.length ≤ i) :
    placeAmong (t.blocks start) i = .outer := by
  rw [placeAmong, Place.outer, Place.mk.injEq, List.countP_eq_zero, List.any_eq_false]
  constructor <;> intro b hb <;> have hbounds := bounds_of_mem_blocks hb <;> simp <;> omega

theorem placeAmong_blocks_block (function caller : String) (body : NestedPath) (closing : Closing) (rest : NestedPath)
    (start i : Nat) :
    placeAmong ((block function caller body closing rest).blocks start) i =
      ⟨(placeAmong (body.blocks (start + 2)) i).nesting +
          (placeAmong (rest.blocks (start + 2 + body.length + 1)) i).nesting +
          (if start < i ∧ i < start + 2 + body.length then 1 else 0),
        start + 2 + body.length == i || (placeAmong (body.blocks (start + 2)) i).closes ||
          (placeAmong (rest.blocks (start + 2 + body.length + 1)) i).closes⟩ := by
  simp only [placeAmong, blocks, List.countP_cons, List.countP_append, List.any_cons, List.any_append,
    decide_eq_true_eq, Bool.or_assoc]

theorem range'_length_block (start n m : Nat) :
    List.range' start (2 + n + 1 + m) =
      start :: (start + 1) :: (List.range' (start + 2) n ++ (start + 2 + n) :: List.range' (start + 2 + n + 1) m) := by
  rw [show 2 + n + 1 + m = n + (m + 1) + 1 + 1 by omega, List.range'_succ, List.range'_succ, ← List.range'_append_1,
    List.range'_succ]

/-- Following the structure and counting the blocks around a step come to the same place. -/
theorem places_eq (t : NestedPath) (start : Nat) :
    t.places = (List.range' start t.length).map (placeAmong (t.blocks start)) := by
  induction t generalizing start with
  | nil => rfl
  | neutral message hneutral rest ih =>
      rw [places, length_neutral, List.range'_succ, List.map_cons, ih (start + 1), blocks,
        placeAmong_blocks_of_outside rest (Or.inl (Nat.lt_succ_self start))]
  | block function caller body closing rest ihbody ihrest =>
      have hbody : ∀ i, i < start + 2 ∨ start + 2 + body.length ≤ i →
          placeAmong (body.blocks (start + 2)) i = .outer := fun i => placeAmong_blocks_of_outside body
      have hrest : ∀ i, i < start + 2 + body.length + 1 →
          placeAmong (rest.blocks (start + 2 + body.length + 1)) i = .outer :=
        fun i hi => placeAmong_blocks_of_outside rest (Or.inl hi)
      rw [places, length_block, range'_length_block, ihbody (start + 2), ihrest (start + 2 + body.length + 1)]
      simp only [List.map_cons, List.map_append, List.map_map]
      -- the call, the entry, the body, the return and what follows, each seen among all blocks
      congr 1
      · rw [placeAmong_blocks_block, hbody _ (by omega), hrest _ (by omega), if_neg (by omega),
          beq_false_of_ne (by omega)]
        rfl
      congr 1
      · rw [placeAmong_blocks_block, hbody _ (by omega), hrest _ (by omega), if_pos (by omega),
          beq_false_of_ne (by omega)]
        rfl
      congr 1
      · refine List.map_congr_left fun i hi => ?_
        obtain ⟨hlo, hhi⟩ := List.mem_range'_1.1 hi
        rw [placeAmong_blocks_block, hrest i (by omega), if_pos (by omega), beq_false_of_ne (by omega)]
        simp [Place.outer, Place.deeper]
      congr 1
      · rw [placeAmong_blocks_block, hbody _ (by omega), hrest _ (by omega), if_neg (by omega), beq_self_eq_true]
        rfl
      · refine List.map_congr_left fun i hi => ?_
        obtain ⟨hlo, hhi⟩ := List.mem_range'_1.1 hi
        rw [placeAmong_blocks_block, hbody i (by omega), if_neg (by omega), beq_false_of_ne (by omega)]
        simp [Place.outer]

theorem getElem?_places {t : NestedPath} {i : Nat} (hi : i < t.length) :
    t.places[i]? = some (placeAmong (t.blocks 0) i) := by
  rw [places_eq t 0, List.getElem?_map, List.getElem?_range' hi]
  simp

end NestedPath

/-! ## Walking a well-nested path -/

/-- What is shown and reported of a step. -/
def TracedStep.shown (t : TracedStep) : String × Int × Option StackMismatch × List LogRecord :=
  (t.classified.band, t.level, t.classified.mismatch, t.classified.log)

/-- What is to be shown of a step at a place, on a path that begins at a depth and a level. -/
def Place.shown (palette : Palette) (depth : Nat) (level : Int) (p : Place) :
    String × Int × Option StackMismatch × List LogRecord :=
  (palette.color (depth + p.nesting + if p.closes then 1 else 0), level + p.nesting, none, [])

section
variable (palette : Palette) (depth : Nat) (level : Int)

theorem Place.shown_outer : outer.shown palette depth level = (palette.color depth, level, none, []) := by
  simp [shown, outer]

theorem Place.shown_entry : entry.shown palette depth level = (palette.color (depth + 1), level + 1, none, []) := rfl

theorem Place.shown_exit : exit.shown palette depth level = (palette.color (depth + 1), level, none, []) := by
  simp [shown, exit]

theorem Place.shown_deeper (p : Place) :
    p.deeper.shown palette depth level = p.shown palette (depth + 1) (level + 1) := by
  have hdepth : depth + (p.nesting + 1) = depth + 1 + p.nesting := by omega
  have hlevel : level + ((p.nesting + 1 : Nat) : Int) = level + 1 + p.nesting := by omega
  simp only [shown, deeper, hdepth, hlevel]
  rfl

end

/-- Either return closes the innermost open call. -/
theorem CallStack.classify_closing {s : CallStack} {rules : StackRules} {function : String} {rest : List String}
    (hopen : s.openCalls = function :: rest) (closing : Closing) :
    s.classify rules (closing.message function) = s.turn rules .returning rest := by
  cases closing with
  | named =>
      have htop : s.top = some function := by rw [top, hopen, List.head?_cons]
      show s.classify rules ("Returning from '" ++ function ++ "'") = _
      rw [classify, StepKind.ofMessage_returning, take, if_pos htop, hopen, List.tail_cons]
  | release =>
      have hne : s.openCalls ≠ [] := hopen ▸ List.cons_ne_nil function rest
      show s.classify rules "Returned allocated memory" = _
      rw [classify, StepKind.ofMessage_eq_returnedAllocatedMemory_iff.2 rfl, take, if_neg fun h => hne h.2, hopen,
        List.tail_cons]

namespace Walk

/-- The same state after so many more steps. -/
def skip (w : Walk) (n : Nat) : Walk := { w with stack := { w.stack with steps := w.stack.steps + n } }

/-- The state in the body of a block, where the call and its entry have been taken. -/
def inside (w : Walk) (function : String) : Walk :=
  ⟨⟨function :: w.stack.openCalls, w.stack.depth + 1, w.stack.steps + 2⟩, w.level + 1⟩

theorem skip_skip (w : Walk) (n m : Nat) : (w.skip n).skip m = w.skip (n + m) := by
  simp only [skip, Nat.add_assoc]

variable (w : Walk) (rules : StackRules)

theorem step_neutral {message : String} (h : (StepKind.ofMessage message).isNeutral = true) :
    (w.step rules message).1.shown = (w.stack.band rules.palette, w.level, none, []) ∧
      (w.step rules message).2 = w.skip 1 := by
  obtain ⟨icon, hquiet, hlevel⟩ := StepKind.exists_quietIcon?_of_isNeutral h
  rw [step, CallStack.classify, CallStack.take_of_quietIcon? _ _ hquiet]
  simp only [CallStack.pass, hlevel, Int.add_zero]
  exact ⟨rfl, rfl⟩

/-- A call is drawn where it stands and its entry one level deeper, in the band of the call. -/
theorem step_calling_enteredCall (function caller : String) :
    let call := w.step rules ("Calling '" ++ function ++ "'")
    let entry := call.2.step rules ("Entered call from " ++ caller)
    call.1.shown = (w.stack.band rules.palette, w.level, none, []) ∧
      entry.1.shown = (rules.palette.color (w.stack.depth + 1), w.level + 1, none, []) ∧
      entry.2 = w.inside function := by
  simp only [step, CallStack.classify, StepKind.ofMessage_calling, StepKind.ofMessage_enteredCall, CallStack.take,
    CallStack.turn, StepIcon.levelChange, Int.add_zero]
  exact ⟨rfl, rfl, rfl⟩

/-- The return closes the block and is drawn in the band of its body. -/
theorem step_closing (function : String) (closing : Closing) (n : Nat) (hband : w.stack.bandDepth = w.stack.depth) :
    let exit := ((w.inside function).skip n).step rules (closing.message function)
    exit.1.shown = (rules.palette.color (w.stack.depth + 1), w.level, none, []) ∧ exit.2 = w.skip (2 + n + 1) := by
  intro exit
  have hlevel : w.level + 1 + StepIcon.returning.levelChange = w.level := Int.add_neg_cancel_right w.level 1
  have hstack : (⟨w.stack.openCalls, w.stack.depth, w.stack.steps + 2 + n + 1⟩ : CallStack) =
      { w.stack with steps := w.stack.steps + (2 + n + 1) } := by
    rw [← hband, Nat.add_assoc w.stack.steps, Nat.add_assoc w.stack.steps]
  have hexit : exit = (⟨⟨rules.palette.color (w.stack.depth + 1), .returning, none, []⟩, w.level⟩,
      w.skip (2 + n + 1)) := by
    rw [skip, ← hstack]
    simp only [exit, step]
    rw [CallStack.classify_closing (show ((w.inside function).skip n).stack.openCalls = _ from rfl)]
    simp only [CallStack.turn, inside, skip, hlevel]
    rfl
  rw [hexit]
  exact ⟨rfl, rfl⟩

/-- A well-nested path leads back to where it began. -/
theorem after_messages (t : NestedPath) (hband : w.stack.bandDepth = w.stack.depth) :
    w.after rules t.messages = w.skip t.length := by
  induction t generalizing w with
  | nil => rfl
  | neutral message hneutral rest ih =>
      rw [NestedPath.messages, after_cons, (w.step_neutral rules hneutral).2, ih (w.skip 1) hband, skip_skip,
        NestedPath.length_neutral, Nat.add_comm]
  | block function caller body closing rest ihbody ihrest =>
      rw [NestedPath.messages, after_cons, after_cons, (w.step_calling_enteredCall rules function caller).2.2,
        after_append, ihbody (w.inside function) rfl, after_cons, (w.step_closing rules function closing _ hband).2,
        ihrest (w.skip _) hband, skip_skip, NestedPath.length_block]

/-- Every step of a well-nested path is drawn as its place says. -/
theorem map_shown_trace (t : NestedPath) (hband : w.stack.bandDepth = w.stack.depth) :
    (w.trace rules t.messages).map (·.shown) = t.places.map (Place.shown rules.palette w.stack.depth w.level) := by
  have hcolor : w.stack.band rules.palette = rules.palette.color w.stack.depth := by rw [CallStack.band, hband]
  induction t generalizing w with
  | nil => rfl
  | neutral message hneutral rest ih =>
      obtain ⟨hstep, hnext⟩ := w.step_neutral rules hneutral
      have hrest := ih (w.skip 1) hband hcolor
      rw [NestedPath.messages, trace_cons, List.map_cons, hstep, hnext, hrest, NestedPath.places, List.map_cons,
        Place.shown_outer, hcolor]
      rfl
  | block function caller body closing rest ihbody ihrest =>
      obtain ⟨hcall, hentry, hinside⟩ := w.step_calling_enteredCall rules function caller
      obtain ⟨hexit, hnext⟩ := w.step_closing rules function closing body.length hband
      have hbody := ihbody (w.inside function) rfl rfl
      have hrest := ihrest (w.skip (2 + body.length + 1)) hband hcolor
      have hdeeper : (body.places.map Place.deeper).map (Place.shown rules.palette w.stack.depth w.level) =
          body.places.map (Place.shown rules.palette (w.stack.depth + 1) (w.level + 1)) := by
        rw [List.map_map]
        exact List.map_congr_left fun p _ => Place.shown_deeper ..
      rw [NestedPath.messages, trace_cons, trace_cons, trace_append, hinside,
        after_messages _ rules body rfl, trace_cons, hnext]
      rw [List.map_cons, List.map_cons, List.map_append, List.map_cons, hcall, hentry, hexit, hbody, hrest]
      rw [NestedPath.places, List.map_cons, List.map_cons, List.map_append, List.map_cons, Place.shown_outer,
        Place.shown_entry, Place.shown_exit, hdeeper, hcolor]
      rfl

theorem mismatches_messages (t : NestedPath) (hband : w.stack.bandDepth = w.stack.depth) :
    (w.trace rules t.messages).filterMap (·.classified.mismatch) = [] := by
  have hshown := congrArg (List.filterMap (·.2.2.1)) (w.map_shown_trace rules t hband)
  rw [List.filterMap_map, List.filterMap_map] at hshown
  exact hshown.trans (List.filterMap_eq_nil_iff.2 fun _ _ => rfl)

theorem log_messages (t : NestedPath) (hband : w.stack.bandDepth = w.stack.depth) :
    (w.trace rules t.messages).flatMap (·.classified.log) = [] := by
  have hshown := congrArg (List.flatMap (·.2.2.2)) (w.map_shown_trace rules t hband)
  rw [List.flatMap_map, List.flatMap_map] at hshown
  exact hshown.trans (List.flatMap_eq_nil_iff.2 fun _ _ => rfl)

theorem exists_shown_at (t : NestedPath) (hband : w.stack.bandDepth = w.stack.depth) {i : Nat} (hi : i < t.length) :
    ∃ traced, (w.trace rules t.messages)[i]? = some traced ∧
      traced.shown = (placeAmong (t.blocks 0) i).shown rules.palette w.stack.depth w.level := by
  have hshown := congrArg (·[i]?) (w.map_shown_trace rules t hband)
  simp only [List.getElem?_map, NestedPath.getElem?_places hi, Option.map_some] at hshown
  exact Option.map_eq_some_iff.1 hshown

end Walk

/-! ## Annotated steps -/

/-- Each traced step is shown in its own band and at its own level. -/
theorem exists_step_of_traced (report : ReportSummary) (events : List Event) (options : AnnotateOptions) {n : Nat}
    {traced : TracedStep} (h : (Walk.start.trace options.stackRules (events.map (·.msg)))[n]? = some traced) :
    ∃ s, (annotatePathEvents report events options).steps[n]? = some s ∧ s.band = traced.classified.band ∧
      s.level = traced.level := by
  have hstep := congrArg (·[n]?) (map_steps report events options (fun s => (s.band, s.level))
    (fun t => (t.classified.band, t.level)) fun _ _ _ _ => rfl)
  simp only [List.getElem?_map, h, Option.map_some] at hstep
  obtain ⟨s, hs, hfields⟩ := Option.map_eq_some_iff.1 hstep
  exact ⟨s, hs, Prod.ext_iff.1 hfields⟩

/-- **A well-nested path annotates cleanly, wherever it is appended.** -/
theorem nested_path_annotates_cleanly (report : ReportSummary) (before appended : List Event)
    (options : AnnotateOptions) (t : NestedPath) (hmessages : appended.map (·.msg) = t.messages) :
    let path := annotatePathEvents report (before ++ appended) options
    let start := Walk.start.after options.stackRules (before.map (·.msg))
    let finish := Walk.start.after options.stackRules ((before ++ appended).map (·.msg))
    let colors := options.palette.colors
    (path.mismatches = (annotatePathEvents report before options).mismatches ∧
      path.log = (annotatePathEvents report before options).log) ∧
    (finish.stack.openCalls = start.stack.openCalls ∧
      finish.stack.band options.palette = start.stack.band options.palette ∧ finish.level = start.level) ∧
    ∀ i < appended.length, ∃ s, path.steps[before.length + i]? = some s ∧
      let place := placeAmong (t.blocks 0) i
      s.level = start.level + place.nesting ∧
      colors[(start.stack.depth + place.nesting + if place.closes then 1 else 0) % colors.length]? = some s.band := by
  intro path start finish colors
  have hband : start.stack.bandDepth = start.stack.depth := by
    rw [Walk.stack_after]
    exact CallStack.bandDepth_after _ _ rfl
  have hfinish : finish = start.skip t.length := by
    rw [← start.after_messages options.stackRules t hband, ← hmessages, ← Walk.after_append, ← List.map_append]
  have htrace : Walk.start.trace options.stackRules ((before ++ appended).map (·.msg)) =
      Walk.start.trace options.stackRules (before.map (·.msg)) ++ start.trace options.stackRules t.messages := by
    rw [List.map_append, hmessages, Walk.trace_append]
  refine ⟨⟨?_, ?_⟩, hfinish ▸ ⟨rfl, rfl, rfl⟩, fun i hi => ?_⟩
  · simp only [path, annotatePathEvents, htrace, List.filterMap_append]
    rw [start.mismatches_messages _ t hband, List.append_nil]
  · simp only [path, annotatePathEvents, htrace, List.flatMap_append]
    rw [start.log_messages _ t hband, List.append_nil]
  · have hlength : i < t.length := by rwa [NestedPath.length, ← hmessages, List.length_map]
    obtain ⟨traced, htraced, hshown⟩ := start.exists_shown_at options.stackRules t hband hlength
    have hat : (Walk.start.trace options.stackRules ((before ++ appended).map (·.msg)))[before.length + i]? =
        some traced := by
      rw [htrace, List.getElem?_append_right (by simp), Walk.length_trace, List.length_map, Nat.add_sub_cancel_left,
        htraced]
    obtain ⟨s, hs, hsband, hslevel⟩ := exists_step_of_traced report _ options hat
    simp only [TracedStep.shown, Place.shown, Prod.mk.injEq] at hshown
    refine ⟨s, hs, by rw [hslevel, hshown.2.1], ?_⟩
    rw [Palette.getElem?_color, hsband, hshown.1]
    rfl

/-- A block is appended after a call that is open and two allocation returns that were never entered. -/
theorem nested_path_annotates_cleanly_below_zero :
    let messages := ["Calling 'f''", "Entered call from 'm'", "Looping back to the head of the loop",
      "Returning from 'f''"]
    let before := ["Returned allocated memory", "Returned allocated memory", "Calling 'g'"].map Event.bare
    let t := NestedPath.block "f'" "'m'" (.neutral "Looping back to the head of the loop" (by decide +kernel) .nil)
      .named .nil
    let path := annotatePathEvents ⟨1, "m", ""⟩ (before ++ messages.map Event.bare) .default
    (messages.map Event.bare).map (·.msg) = t.messages ∧ path.mismatches = [] ∧
      ∃ s, path.steps[3 + 2]? = some s ∧ s.level = -1 := by
  intro messages before t path
  have hmessages : (messages.map Event.bare).map (·.msg) = t.messages := by decide +kernel
  obtain ⟨⟨hmismatches, -⟩, -, hsteps⟩ :=
    nested_path_annotates_cleanly ⟨1, "m", ""⟩ before (messages.map Event.bare) .default t hmessages
  obtain ⟨s, hs, hlevel, -⟩ := hsteps 2 (by decide)
  refine ⟨hmessages, hmismatches.trans (by decide +kernel), s, hs, hlevel.trans (by decide +kernel)⟩

end DefectTrail
