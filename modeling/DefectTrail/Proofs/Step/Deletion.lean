import DefectTrail.Proofs.Step.DepthCounter
import Mathlib.Data.Finset.Basic

/-!
# Inert steps may be left out

A step is inert if its icon neither calls, nor enters a call, nor returns; a mismatched return is inert.

* `without`, `renumber` : a list without the items at some positions, and where the items go that are kept;
* `CallStack.atStep`, `Walk.atStep` : a state as it is at another position of the path; a step goes the same way from
  there (`Walk.step_atStep`), and an inert step leads nowhere else (`Walk.step_of_isInert`);
* `Walk.map_drawn_trace_withoutFrom`, `Walk.mismatches_trace_withoutFrom` : a walk that leaves inert steps out draws
  and refuses the others as before;
* `annotation_without_inert_steps` : the statement as a whole, about annotated steps and mismatches.
-/

namespace DefectTrail

/-! ## Deleting items of a list -/

section
variable {α β : Type} (deleted : Finset Nat)

/-- The items of a list that begins at position `start`, without those at the given positions. -/
def withoutFrom (start : Nat) (l : List α) : List α :=
  ((l.zipIdx start).filter fun item => item.2 ∉ deleted).map (·.1)

/-- A list without the items at the given positions. -/
def without (l : List α) : List α := withoutFrom deleted 0 l

/-- The position that an item has once the given ones are deleted. -/
def renumber (i : Nat) : Nat := (List.range i).countP fun j => j ∉ deleted

variable {deleted} {start : Nat}

@[simp] theorem withoutFrom_nil : withoutFrom deleted start ([] : List α) = [] := rfl

theorem withoutFrom_cons_of_mem (h : start ∈ deleted) (a : α) (l : List α) :
    withoutFrom deleted start (a :: l) = withoutFrom deleted (start + 1) l := by
  rw [withoutFrom, List.zipIdx_cons, List.filter_cons_of_neg (by simp [h])]
  rfl

theorem withoutFrom_cons_of_notMem (h : start ∉ deleted) (a : α) (l : List α) :
    withoutFrom deleted start (a :: l) = a :: withoutFrom deleted (start + 1) l := by
  rw [withoutFrom, List.zipIdx_cons, List.filter_cons_of_pos (by simp [h])]
  rfl

theorem map_withoutFrom (f : α → β) (l : List α) :
    (withoutFrom deleted start l).map f = withoutFrom deleted start (l.map f) := by
  induction l generalizing start with
  | nil => rfl
  | cons a l ih =>
      by_cases h : start ∈ deleted
      · rw [List.map_cons, withoutFrom_cons_of_mem h, withoutFrom_cons_of_mem h, ih]
      · rw [List.map_cons, withoutFrom_cons_of_notMem h, withoutFrom_cons_of_notMem h, List.map_cons, ih]

theorem zip_withoutFrom (l : List α) (l' : List β) :
    (withoutFrom deleted start l).zip (withoutFrom deleted start l') = withoutFrom deleted start (l.zip l') := by
  induction l generalizing start l' with
  | nil => rfl
  | cons a l ih =>
      cases l' with
      | nil => rw [withoutFrom_nil, List.zip_nil_right, List.zip_nil_right, withoutFrom_nil]
      | cons b l' =>
          by_cases h : start ∈ deleted
          · rw [List.zip_cons_cons, withoutFrom_cons_of_mem h, withoutFrom_cons_of_mem h, withoutFrom_cons_of_mem h, ih]
          · rw [List.zip_cons_cons, withoutFrom_cons_of_notMem h, withoutFrom_cons_of_notMem h,
              withoutFrom_cons_of_notMem h, List.zip_cons_cons, ih]

theorem renumber_succ_of_mem {i : Nat} (h : i ∈ deleted) : renumber deleted (i + 1) = renumber deleted i := by
  rw [renumber, List.range_succ, List.countP_append, List.countP_singleton, if_neg (by simp [h])]
  rfl

theorem renumber_succ_of_notMem {i : Nat} (h : i ∉ deleted) : renumber deleted (i + 1) = renumber deleted i + 1 := by
  rw [renumber, List.range_succ, List.countP_append, List.countP_singleton, if_pos (by simp [h])]
  rfl

end

/-! ## States at another position -/

/-- The icon of a step that leaves open calls and level alone. -/
def StepIcon.isInert : StepIcon → Bool
  | .calling | .enteredCall | .returning => false
  | _ => true

theorem StepIcon.isInert_iff {icon : StepIcon} :
    icon.isInert = true ↔ icon ≠ .calling ∧ icon ≠ .enteredCall ∧ icon ≠ .returning := by
  cases icon <;> decide

theorem StepIcon.levelChange_of_isInert {icon : StepIcon} (h : icon.isInert = true) : icon.levelChange = 0 := by
  cases icon with
  | calling | enteredCall | returning => cases h
  | _ => rfl

/-- The mismatch of the same step on the path without the given positions. -/
def StackMismatch.renumbered (x : StackMismatch) (deleted : Finset Nat) : StackMismatch :=
  { x with stepIndex := renumber deleted x.stepIndex }

namespace CallStack

/-- The same open calls and band at another position of the path. -/
def atStep (s : CallStack) (n : Nat) : CallStack := { s with steps := n }

/-- The position shows in the mismatch and in nothing else. -/
theorem take_atStep (s : CallStack) (rules : StackRules) (kind : StepKind) (n : Nat) :
    let taken := s.take rules kind
    let taken' := (s.atStep n).take rules kind
    taken'.1.icon = taken.1.icon ∧ taken'.1.band = taken.1.band ∧
      taken'.1.mismatch = taken.1.mismatch.map (fun x => { x with stepIndex := n }) ∧
      taken'.2 = taken.2.atStep (n + 1) := by
  intro taken taken'
  cases kind with
  | returning function =>
      by_cases htop : s.top = some function
      · have htaken : taken = s.turn rules .returning s.openCalls.tail := if_pos htop
        have htaken' : taken' = (s.atStep n).turn rules .returning s.openCalls.tail := if_pos htop
        rw [htaken, htaken']
        exact ⟨rfl, rfl, rfl, rfl⟩
      · have htaken : taken = s.refuse rules (some function) := if_neg htop
        have htaken' : taken' = (s.atStep n).refuse rules (some function) := if_neg htop
        rw [htaken, htaken']
        exact ⟨rfl, rfl, rfl, rfl⟩
  | returnedAllocatedMemory =>
      by_cases hrefused : rules.strictAllocationReturns = true ∧ s.openCalls = []
      · have htaken : taken = s.refuse rules none := if_pos hrefused
        have htaken' : taken' = (s.atStep n).refuse rules none := if_pos hrefused
        rw [htaken, htaken']
        exact ⟨rfl, rfl, rfl, rfl⟩
      · have htaken : taken = s.turn rules .returning s.openCalls.tail := if_neg hrefused
        have htaken' : taken' = (s.atStep n).turn rules .returning s.openCalls.tail := if_neg hrefused
        rw [htaken, htaken']
        exact ⟨rfl, rfl, rfl, rfl⟩
  | _ => exact ⟨rfl, rfl, rfl, rfl⟩

variable {s next : CallStack} {rules : StackRules} {kind : StepKind} {c : Classified}

theorem Takes.next_of_isInert (h : s.Takes rules kind c next) (hinert : c.icon.isInert = true) :
    next = s.atStep (s.steps + 1) := by
  cases h with
  | opens function => cases hinert
  | closes kind function rest hopen hkind => cases hinert
  | closesNothing hopen hlax => cases hinert
  | refusesReturn function htop => rfl
  | refusesRelease hopen hstrict => rfl
  | passes kind icon hkind => rfl

theorem Takes.stepIndex_eq (h : s.Takes rules kind c next) {x : StackMismatch} (hx : c.mismatch = some x) :
    x.stepIndex = s.steps := by
  cases h with
  | refusesReturn function htop =>
      rw [← Option.some.inj hx]
  | refusesRelease hopen hstrict =>
      rw [← Option.some.inj hx]
  | _ => cases hx

end CallStack

/-- What is drawn of a step. -/
def TracedStep.drawn (t : TracedStep) : StepIcon × String × Int := (t.classified.icon, t.classified.band, t.level)

namespace Walk

/-- The same calls, band and level at another position of the path. -/
def atStep (w : Walk) (n : Nat) : Walk := ⟨w.stack.atStep n, w.level⟩

section
variable (w : Walk) (rules : StackRules) (m : String)

/-- The step goes the same way from another position. -/
theorem step_atStep (n : Nat) :
    let taken := w.step rules m
    let taken' := (w.atStep n).step rules m
    taken'.1.drawn = taken.1.drawn ∧
      taken'.1.classified.mismatch = taken.1.classified.mismatch.map (fun x => { x with stepIndex := n }) ∧
      taken'.2 = taken.2.atStep (n + 1) := by
  intro taken taken'
  obtain ⟨hicon, hband, hmismatch, hnext⟩ := w.stack.take_atStep rules (.ofMessage m) n
  have hlevel : taken'.1.level = taken.1.level := congrArg (fun icon => w.level + StepIcon.levelChange icon) hicon
  refine ⟨?_, hmismatch, ?_⟩
  · rw [TracedStep.drawn, TracedStep.drawn, hlevel]
    exact congrArg₂ (fun icon band => (icon, band, taken.1.level)) hicon hband
  · exact congrArg₂ Walk.mk hnext hlevel

/-- An inert step changes nothing but the position. -/
theorem step_of_isInert (h : (w.step rules m).1.classified.icon.isInert = true) :
    (w.step rules m).2 = w.atStep (w.stack.steps + 1) := by
  have hstack : (w.step rules m).2.stack = w.stack.atStep (w.stack.steps + 1) :=
    (CallStack.takes_take w.stack rules (.ofMessage m)).next_of_isInert h
  have hlevel : (w.step rules m).2.level = w.level := by
    have hchange : (w.step rules m).2.level = w.level + (w.step rules m).1.classified.icon.levelChange := rfl
    rw [hchange, StepIcon.levelChange_of_isInert h, Int.add_zero]
  exact congrArg₂ Walk.mk hstack hlevel

end

/-! ## Walks that leave inert steps out -/

section
variable {deleted : Finset Nat} {start : Nat} {rules : StackRules}

/-- The steps to be deleted are inert, on a walk whose first step is at position `start`. -/
def InertAt (deleted : Finset Nat) (start : Nat) (w : Walk) (rules : StackRules) (ms : List String) : Prop :=
  ∀ i t, start + i ∈ deleted → (w.trace rules ms)[i]? = some t → t.classified.icon.isInert = true

theorem InertAt.head {w : Walk} {m : String} {ms : List String} (h : InertAt deleted start w rules (m :: ms))
    (hmem : start ∈ deleted) : (w.step rules m).1.classified.icon.isInert = true :=
  h 0 _ hmem rfl

theorem InertAt.tail {w : Walk} {m : String} {ms : List String} (h : InertAt deleted start w rules (m :: ms)) :
    InertAt deleted (start + 1) (w.step rules m).2 rules ms := by
  intro i t hmem ht
  refine h (i + 1) t ?_ ht
  rwa [Nat.add_comm i 1, ← Nat.add_assoc]

theorem map_drawn_trace_withoutFrom {w : Walk} {ms : List String} (h : InertAt deleted start w rules ms) (n : Nat) :
    ((w.atStep n).trace rules (withoutFrom deleted start ms)).map (·.drawn) =
      withoutFrom deleted start ((w.trace rules ms).map (·.drawn)) := by
  induction ms generalizing w n start with
  | nil => rfl
  | cons m ms ih =>
      rw [trace_cons, List.map_cons]
      by_cases hmem : start ∈ deleted
      · rw [withoutFrom_cons_of_mem hmem, withoutFrom_cons_of_mem hmem, ← ih h.tail n,
          step_of_isInert w rules m (h.head hmem)]
        rfl
      · obtain ⟨hdrawn, -, hnext⟩ := w.step_atStep rules m n
        rw [withoutFrom_cons_of_notMem hmem, withoutFrom_cons_of_notMem hmem, trace_cons, List.map_cons, hdrawn, hnext,
          ih h.tail (n + 1)]

theorem mismatches_trace_withoutFrom {w : Walk} {ms : List String} (h : InertAt deleted start w rules ms)
    (hsteps : w.stack.steps = start) :
    ((w.atStep (renumber deleted start)).trace rules (withoutFrom deleted start ms)).filterMap
        (·.classified.mismatch) =
      (((w.trace rules ms).filterMap (·.classified.mismatch)).filter fun x => x.stepIndex ∉ deleted).map
        (·.renumbered deleted) := by
  induction ms generalizing w start with
  | nil => rfl
  | cons m ms ih =>
      have htakes := w.stack.takes_take rules (.ofMessage m)
      have hnext_steps : (w.step rules m).2.stack.steps = start + 1 := htakes.steps_eq.trans (by rw [hsteps])
      have hindex : ∀ x, (w.step rules m).1.classified.mismatch = some x → x.stepIndex = start :=
        fun x hx => (htakes.stepIndex_eq hx).trans hsteps
      have hrest := ih h.tail hnext_steps
      rw [trace_cons, List.filterMap_cons]
      by_cases hmem : start ∈ deleted
      · -- the deleted step may have been refused; its mismatch goes with it
        rw [withoutFrom_cons_of_mem hmem]
        rw [renumber_succ_of_mem hmem, step_of_isInert w rules m (h.head hmem)] at hrest
        cases hmismatch : (w.step rules m).1.classified.mismatch with
        | none => rw [step_of_isInert w rules m (h.head hmem)]; exact hrest
        | some x =>
            rw [List.filter_cons_of_neg (by simp [hindex x hmismatch, hmem]),
              step_of_isInert w rules m (h.head hmem)]
            exact hrest
      · obtain ⟨-, hshort, hnext⟩ := w.step_atStep rules m (renumber deleted start)
        rw [renumber_succ_of_notMem hmem] at hrest
        rw [withoutFrom_cons_of_notMem hmem, trace_cons, List.filterMap_cons, hshort, hnext, hrest]
        cases hmismatch : (w.step rules m).1.classified.mismatch with
        | none => rfl
        | some x =>
            have hx := hindex x hmismatch
            rw [Option.map_some, List.filter_cons_of_pos (by simp [hx, hmem]), List.map_cons,
              StackMismatch.renumbered, hx]

end

end Walk

/-! ## Annotated paths -/

/-- What is drawn of an annotated step, together with its event. -/
def StepAnnotation.drawn (s : StepAnnotation) : Event × StepIcon × String × Int := (s.event, s.icon, s.band, s.level)

section
variable (report : ReportSummary) (events : List Event) (options : AnnotateOptions)

theorem map_drawn_steps :
    (annotatePathEvents report events options).steps.map (·.drawn) =
      events.zip ((Walk.start.trace options.stackRules (events.map (·.msg))).map (·.drawn)) := by
  apply List.ext_getElem?
  intro i
  rw [List.getElem?_map, getElem?_steps, List.zip, List.getElem?_zipWith, List.getElem?_map, Walk.getElem?_trace,
    List.getElem?_map]
  cases events[i]? <;> rfl

/-- Icons of annotated steps are icons of the walk. -/
theorem inertAt_of_icons {deleted : Finset Nat}
    (hinert : ∀ i ∈ deleted, ∀ s, (annotatePathEvents report events options).steps[i]? = some s →
      s.icon ≠ .calling ∧ s.icon ≠ .enteredCall ∧ s.icon ≠ .returning) :
    Walk.InertAt deleted 0 Walk.start options.stackRules (events.map (·.msg)) := by
  intro i t hmem ht
  have hicons := congrArg (·[i]?) (map_steps report events options (·.icon) (·.classified.icon) fun _ _ _ _ => rfl)
  simp only [List.getElem?_map, ht, Option.map_some] at hicons
  obtain ⟨s, hs, hicon⟩ := Option.map_eq_some_iff.1 hicons
  rw [Nat.zero_add] at hmem
  rw [← hicon, StepIcon.isInert_iff]
  exact hinert i hmem s hs

end

/-- **Inert steps do not influence the others.** -/
theorem annotation_without_inert_steps (report : ReportSummary) (events : List Event) (options : AnnotateOptions)
    (deleted : Finset Nat)
    (hinert : ∀ i ∈ deleted, ∀ s, (annotatePathEvents report events options).steps[i]? = some s →
      s.icon ≠ .calling ∧ s.icon ≠ .enteredCall ∧ s.icon ≠ .returning) :
    let path := annotatePathEvents report events options
    let short := annotatePathEvents report (without deleted events) options
    short.steps.map (fun s => (s.event, s.icon, s.band, s.level)) =
        without deleted (path.steps.map fun s => (s.event, s.icon, s.band, s.level)) ∧
      short.mismatches = (path.mismatches.filter fun x => x.stepIndex ∉ deleted).map fun x =>
        { x with stepIndex := renumber deleted x.stepIndex } := by
  intro path short
  have hwalk := inertAt_of_icons report events options hinert
  have hmessages : (without deleted events).map (·.msg) = without deleted (events.map (·.msg)) := map_withoutFrom _ _
  constructor
  · have htrace := Walk.map_drawn_trace_withoutFrom hwalk 0
    calc short.steps.map (·.drawn)
        = (without deleted events).zip
            ((Walk.start.trace options.stackRules (without deleted (events.map (·.msg)))).map (·.drawn)) := by
          rw [map_drawn_steps, hmessages]
      _ = (without deleted events).zip
            (without deleted ((Walk.start.trace options.stackRules (events.map (·.msg))).map (·.drawn))) :=
          congrArg _ htrace
      _ = without deleted (path.steps.map (·.drawn)) := by
          rw [map_drawn_steps]
          exact zip_withoutFrom _ _
  · have hmismatches := Walk.mismatches_trace_withoutFrom hwalk rfl
    have hshort : short.mismatches =
        (Walk.start.trace options.stackRules (without deleted (events.map (·.msg)))).filterMap
          (·.classified.mismatch) := by
      rw [← hmessages]
      rfl
    rw [hshort]
    exact hmismatches

/-- Of two mismatched returns the first is deleted, with the assumption after it; the second moves up. -/
theorem annotation_without_inert_steps_mismatched :
    let events := ["Calling 'f'", "Returning from 'g'", "Assuming 'p' is null", "Returning from 'h'",
      "Returning from 'f'"].map Event.bare
    let path := annotatePathEvents ⟨1, "m", ""⟩ events .default
    let short := annotatePathEvents ⟨1, "m", ""⟩ (without {1, 2} events) .default
    (∀ i ∈ ({1, 2} : Finset Nat), ∀ s, path.steps[i]? = some s →
      s.icon ≠ .calling ∧ s.icon ≠ .enteredCall ∧ s.icon ≠ .returning) ∧
      short.steps.map (fun s => (s.event, s.icon, s.band, s.level)) =
        without {1, 2} (path.steps.map fun s => (s.event, s.icon, s.band, s.level)) ∧
      path.mismatches.map (·.stepIndex) = [1, 3] ∧ short.mismatches = [⟨1, some "h", some "f"⟩] := by
  intro events path short
  have hinert : ∀ i ∈ ({1, 2} : Finset Nat), ∀ s ∈ path.steps[i]?,
      s.icon ≠ .calling ∧ s.icon ≠ .enteredCall ∧ s.icon ≠ .returning := by decide +kernel
  obtain ⟨hsteps, hmismatches⟩ := annotation_without_inert_steps ⟨1, "m", ""⟩ events .default {1, 2} hinert
  exact ⟨hinert, hsteps, by decide +kernel, hmismatches.trans (by decide +kernel)⟩

end DefectTrail
