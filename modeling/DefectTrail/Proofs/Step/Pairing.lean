import DefectTrail.Proofs.Step.Recognition
import DefectTrail.Proofs.Step.Transition

/-!
# Returns are paired with calls, last opened first closed

* `IsPairing` : what it means that a partial map from positions to positions sends each return that finds an open call
  to the call that it closes;
* `openPositions` : the positions of the open calls, kept beside the calls themselves; `closedBy` reads the pairing off
  it, and `isPairing_closedBy` says that it is one;
* `IsPairing.unique` : there is no other;
* `existsUnique_isPairing_and_mismatch_iff` : the statement as a whole, with the returns that are refused.
-/

namespace DefectTrail

/-- The function that a call or a return names. -/
def StepKind.function? : StepKind → Option String
  | .calling function | .returning function => some function
  | _ => none

/-- The function named by the step at a position. -/
def functionAt? (messages : List String) (i : Nat) : Option String := (kindAt? messages i).bind (·.function?)

section
variable (rules : StackRules) (messages : List String)

/-- The mismatch at a position. -/
def mismatchAt? (i : Nat) : Option StackMismatch := (classifiedAt? rules messages i).bind (·.mismatch)

/-- The names of the calls before position `n` that no return before position `n` is paired with, in order. -/
def unpairedCalls (partner : Nat → Option Nat) (n : Nat) : List String :=
  (List.range n).filterMap fun i =>
    if iconAt? rules messages i = some .calling ∧ ∀ j < n, partner j ≠ some i then functionAt? messages i else none

/-- A map from the position of each accepted return that finds an open call to the position of a call. -/
structure IsPairing (partner : Nat → Option Nat) : Prop where
  isSome_iff : ∀ j, (partner j).isSome ↔
    iconAt? rules messages j = some .returning ∧ (stackAt rules messages j).openCalls ≠ []
  isCall : ∀ i j, partner j = some i → i < j ∧ iconAt? rules messages i = some .calling
  once : ∀ i j j', partner j = some i → partner j' = some i → j = j'
  nested : ∀ i i' j j', partner j = some i → partner j' = some i' → ¬ (i < i' ∧ i' < j ∧ j < j')
  closed : ∀ i j i', partner j = some i → i < i' → i' < j → iconAt? rules messages i' = some .calling →
    ∃ j' < j, partner j' = some i'
  sameFunction : ∀ i j function, partner j = some i → kindAt? messages j = some (.returning function) →
    kindAt? messages i = some (.calling function)
  openCalls : ∀ k < messages.length,
    (stackAt rules messages (k + 1)).openCalls.reverse = unpairedCalls rules messages partner (k + 1)
  depth : ∀ k < messages.length,
    (stackAt rules messages (k + 1)).depth = (unpairedCalls rules messages partner (k + 1)).length
  top : ∀ k < messages.length,
    (stackAt rules messages (k + 1)).top = (unpairedCalls rules messages partner (k + 1)).getLast?

end

/-! ## What an icon says about the open calls -/

section
variable {rules : StackRules} {messages : List String} {i : Nat}

theorem openCalls_succ (rules : StackRules) (messages : List String) (i : Nat) :
    (iconAt? rules messages i = some .calling ∧ ∃ function, kindAt? messages i = some (.calling function) ∧
      (stackAt rules messages (i + 1)).openCalls = function :: (stackAt rules messages i).openCalls) ∨
    (iconAt? rules messages i = some .returning ∧
      (stackAt rules messages (i + 1)).openCalls = (stackAt rules messages i).openCalls.tail ∧
      ∀ function, kindAt? messages i = some (.returning function) → (stackAt rules messages i).top = some function) ∨
    (iconAt? rules messages i ≠ some .calling ∧ iconAt? rules messages i ≠ some .returning ∧
      (stackAt rules messages (i + 1)).openCalls = (stackAt rules messages i).openCalls) := by
  cases hm : messages[i]? with
  | none =>
      refine Or.inr (Or.inr ⟨?_, ?_, by rw [stackAt_succ_of_none hm]⟩) <;>
        simp [iconAt?, classifiedAt?_of_none hm]
  | some m =>
      obtain ⟨c, next, hc, hnext, htakes⟩ := takes_at rules hm
      have hkind : kindAt? messages i = some (.ofMessage m) := by rw [kindAt?, hm, Option.map_some]
      have hicon : iconAt? rules messages i = some c.icon := by rw [iconAt?, hc, Option.map_some]
      rw [hicon, hkind, hnext]
      generalize StepKind.ofMessage m = kind at htakes
      cases htakes with
      | opens function => exact Or.inl ⟨rfl, function, rfl, rfl⟩
      | closes kind function rest hopen hkind =>
          refine Or.inr (Or.inl ⟨rfl, by rw [hopen, List.tail_cons], fun named hnamed => ?_⟩)
          rcases hkind with rfl | rfl
          · rw [← StepKind.returning.inj (Option.some.inj hnamed), CallStack.top, hopen, List.head?_cons]
          · cases hnamed
      | closesNothing hopen hlax =>
          exact Or.inr (Or.inl ⟨rfl, by rw [hopen, List.tail_nil], fun named hnamed => by cases hnamed⟩)
      | refusesReturn function htop => exact Or.inr (Or.inr ⟨by simp, by simp, rfl⟩)
      | refusesRelease hopen hstrict => exact Or.inr (Or.inr ⟨by simp, by simp, rfl⟩)
      | passes kind icon hkind =>
          obtain ⟨hcalling, hreturning⟩ := StepKind.ne_calling_of_quietIcon? hkind
          exact Or.inr (Or.inr ⟨fun h => hcalling (Option.some.inj h), fun h => hreturning (Option.some.inj h), rfl⟩)

end

/-! ## The positions of the open calls -/

section
variable (rules : StackRules) (messages : List String)

/-- The positions of the calls that are open before a step, innermost first. -/
def openPositions : Nat → List Nat
  | 0 => []
  | i + 1 =>
    if iconAt? rules messages i = some .calling then i :: openPositions i
    else if iconAt? rules messages i = some .returning then (openPositions i).tail
    else openPositions i

/-- The position of the call that the return at a position closes. -/
def closedBy (j : Nat) : Option Nat :=
  if iconAt? rules messages j = some .returning then (openPositions rules messages j).head? else none

end

section
variable {rules : StackRules} {messages : List String}

theorem map_functionAt?_openPositions (rules : StackRules) (messages : List String) (i : Nat) :
    (openPositions rules messages i).map (functionAt? messages) = (stackAt rules messages i).openCalls.map some := by
  induction i with
  | zero => rfl
  | succ i ih =>
      rcases openCalls_succ rules messages i with ⟨hicon, function, hkind, hopen⟩ | ⟨hicon, hopen, -⟩ |
        ⟨hcalling, hreturning, hopen⟩
      · have hfunction : functionAt? messages i = some function := by rw [functionAt?, hkind]; rfl
        rw [openPositions, if_pos hicon, hopen, List.map_cons, List.map_cons, ih, hfunction]
      · rw [openPositions, if_neg (by rw [hicon]; decide), if_pos hicon, hopen, List.map_tail, List.map_tail, ih]
      · rw [openPositions, if_neg hcalling, if_neg hreturning, hopen, ih]

theorem openPositions_lt {i p : Nat} (h : p ∈ openPositions rules messages i) : p < i := by
  induction i with
  | zero => cases h
  | succ i ih =>
      rw [openPositions] at h
      split_ifs at h
      · rcases List.mem_cons.1 h with rfl | h
        · exact Nat.lt_succ_self _
        · exact Nat.lt_succ_of_lt (ih h)
      · exact Nat.lt_succ_of_lt (ih (List.mem_of_mem_tail h))
      · exact Nat.lt_succ_of_lt (ih h)

theorem pairwise_openPositions (rules : StackRules) (messages : List String) (i : Nat) :
    (openPositions rules messages i).Pairwise (· > ·) := by
  induction i with
  | zero => exact List.Pairwise.nil
  | succ i ih =>
      rw [openPositions]
      split_ifs
      · exact List.Pairwise.cons (fun p hp => openPositions_lt hp) ih
      · exact ih.tail
      · exact ih

theorem closedBy_eq_some_iff {i j : Nat} : closedBy rules messages j = some i ↔
    iconAt? rules messages j = some .returning ∧ (openPositions rules messages j).head? = some i := by
  rw [closedBy]
  split_ifs with hicon <;> simp [hicon]

theorem closedBy_mem {i j : Nat} (h : closedBy rules messages j = some i) : i ∈ openPositions rules messages j :=
  List.mem_of_head? (closedBy_eq_some_iff.1 h).2

theorem mem_openPositions_succ {i p : Nat} :
    p ∈ openPositions rules messages (i + 1) ↔
      p = i ∧ iconAt? rules messages i = some .calling ∨
        p ∈ openPositions rules messages i ∧ closedBy rules messages i ≠ some p := by
  rw [openPositions, closedBy]
  split_ifs with hcalling hreturning hreturning
  · rw [hcalling] at hreturning
    cases hreturning
  · simp [hcalling]
  · have hpairwise := pairwise_openPositions rules messages i
    cases hopen : openPositions rules messages i with
    | nil => simp [hcalling]
    | cons q rest =>
        rw [hopen, List.pairwise_cons] at hpairwise
        have hne : p ∈ rest → q ≠ p := fun hp => Nat.ne_of_gt (hpairwise.1 p hp)
        simp only [List.tail_cons, List.head?_cons, List.mem_cons, hcalling, and_false, false_or, ne_eq,
          Option.some.injEq]
        constructor
        · exact fun hp => ⟨Or.inr hp, hne hp⟩
        · rintro ⟨rfl | hp, hq⟩
          · exact absurd rfl hq
          · exact hp
  · simp [hcalling]

/-- A call is open until a return closes it. -/
theorem mem_openPositions_iff {i p : Nat} :
    p ∈ openPositions rules messages i ↔
      p < i ∧ iconAt? rules messages p = some .calling ∧ ∀ j < i, closedBy rules messages j ≠ some p := by
  induction i with
  | zero => simp [openPositions]
  | succ i ih =>
      rw [mem_openPositions_succ, ih, Nat.forall_lt_succ_right]
      constructor
      · rintro (⟨rfl, hicon⟩ | ⟨⟨hlt, hicon, hopen⟩, hi⟩)
        · have hnone : ∀ j ≤ p, closedBy rules messages j ≠ some p := fun j hj h =>
            absurd (openPositions_lt (closedBy_mem h)) (Nat.not_lt.2 hj)
          exact ⟨Nat.lt_succ_self p, hicon, fun j hj => hnone j (Nat.le_of_lt hj), hnone p (Nat.le_refl p)⟩
        · exact ⟨Nat.lt_succ_of_lt hlt, hicon, hopen, hi⟩
      · rintro ⟨hlt, hicon, hopen, hi⟩
        rcases Nat.lt_succ_iff_lt_or_eq.1 hlt with hlt | rfl
        · exact Or.inr ⟨⟨hlt, hicon, hopen⟩, hi⟩
        · exact Or.inl ⟨rfl, hicon⟩

/-! ## The pairing read off the positions -/

theorem reverse_openPositions (rules : StackRules) (messages : List String) (i : Nat) :
    (openPositions rules messages i).reverse =
      (List.range i).filter fun p =>
        iconAt? rules messages p = some .calling ∧ ∀ j < i, closedBy rules messages j ≠ some p := by
  refine List.Pairwise.eq_of_mem_iff (r := (· < ·)) ?_ ?_ ?_
  · exact List.pairwise_reverse.2 (pairwise_openPositions rules messages i)
  · exact List.pairwise_lt_range.filter _
  · intro p
    rw [List.mem_reverse, mem_openPositions_iff, List.mem_filter, List.mem_range, decide_eq_true_eq]

theorem reverse_openCalls_stackAt (rules : StackRules) (messages : List String) (i : Nat) :
    (stackAt rules messages i).openCalls.reverse = unpairedCalls rules messages (closedBy rules messages) i := by
  have hmap := congrArg List.reverse (map_functionAt?_openPositions rules messages i)
  rw [← List.map_reverse, ← List.map_reverse, reverse_openPositions] at hmap
  have hnames := congrArg (List.filterMap id) hmap
  rw [List.filterMap_map, List.filterMap_map, Function.id_comp, Function.id_comp, List.filterMap_some,
    List.filterMap_filter] at hnames
  rw [← hnames, unpairedCalls]
  simp only [decide_eq_true_eq]

theorem isSome_closedBy_iff (j : Nat) : (closedBy rules messages j).isSome ↔
    iconAt? rules messages j = some .returning ∧ (stackAt rules messages j).openCalls ≠ [] := by
  have hmap := map_functionAt?_openPositions rules messages j
  have hnil : openPositions rules messages j = [] ↔ (stackAt rules messages j).openCalls = [] := by
    rw [← @List.map_eq_nil_iff _ _ (functionAt? messages), hmap, List.map_eq_nil_iff]
  rw [ne_eq, ← hnil, closedBy]
  split_ifs with hicon <;> simp [hicon]

theorem sameFunction_closedBy {i j : Nat} {function : String} (h : closedBy rules messages j = some i)
    (hkind : kindAt? messages j = some (.returning function)) : kindAt? messages i = some (.calling function) := by
  obtain ⟨hreturning, hhead⟩ := closedBy_eq_some_iff.1 h
  obtain ⟨-, hcalling, -⟩ := mem_openPositions_iff.1 (closedBy_mem h)
  have htop : (stackAt rules messages j).top = some function := by
    rcases openCalls_succ rules messages j with ⟨hicon, -⟩ | ⟨-, -, hnamed⟩ | ⟨-, hne, -⟩
    · rw [hicon] at hreturning
      cases hreturning
    · exact hnamed function hkind
    · exact absurd hreturning hne
  obtain ⟨opened, hopened⟩ : ∃ opened, kindAt? messages i = some (.calling opened) := by
    rcases openCalls_succ rules messages i with ⟨-, opened, hopened, -⟩ | ⟨hicon, -⟩ | ⟨hne, -⟩
    · exact ⟨opened, hopened⟩
    · rw [hicon] at hcalling
      cases hcalling
    · exact absurd hcalling hne
  -- the head of the open positions names the head of the open calls
  have hnames := congrArg List.head? (map_functionAt?_openPositions rules messages j)
  rw [List.head?_map, List.head?_map, hhead, ← CallStack.top, htop, Option.map_some, Option.map_some, functionAt?,
    hopened] at hnames
  have hsame : opened = function := by simpa [StepKind.function?] using hnames
  rw [hopened, hsame]

theorem isPairing_closedBy (rules : StackRules) (messages : List String) :
    IsPairing rules messages (closedBy rules messages) := by
  have isCall : ∀ i j, closedBy rules messages j = some i → i < j ∧ iconAt? rules messages i = some .calling := by
    intro i j h
    obtain ⟨hlt, hicon, -⟩ := mem_openPositions_iff.1 (closedBy_mem h)
    exact ⟨hlt, hicon⟩
  have once : ∀ i j j', closedBy rules messages j = some i → closedBy rules messages j' = some i → j = j' := by
    intro i j j' h h'
    obtain ⟨-, -, hopen⟩ := mem_openPositions_iff.1 (closedBy_mem h)
    obtain ⟨-, -, hopen'⟩ := mem_openPositions_iff.1 (closedBy_mem h')
    rcases Nat.lt_trichotomy j j' with hlt | heq | hlt
    · exact absurd h (hopen' j hlt)
    · exact heq
    · exact absurd h' (hopen j' hlt)
  have closed : ∀ i j i', closedBy rules messages j = some i → i < i' → i' < j →
      iconAt? rules messages i' = some .calling → ∃ j' < j, closedBy rules messages j' = some i' := by
    intro i j i' h hlt hlt' hicon
    -- a call opened later than the one being closed is no longer open
    have hclosed : i' ∉ openPositions rules messages j := by
      intro hmem
      obtain ⟨rest, hopen⟩ := List.head?_eq_some_iff.1 (closedBy_eq_some_iff.1 h).2
      have hpairwise := pairwise_openPositions rules messages j
      rw [hopen] at hmem hpairwise
      rcases List.mem_cons.1 hmem with heq | hmem
      · exact absurd heq (Nat.ne_of_gt hlt)
      · exact absurd (List.rel_of_pairwise_cons hpairwise hmem) (Nat.lt_asymm hlt)
    rw [mem_openPositions_iff] at hclosed
    push Not at hclosed
    exact hclosed hlt' hicon
  have openCalls := fun k (_ : k < messages.length) =>
    reverse_openCalls_stackAt rules messages (k + 1)
  exact {
    isSome_iff := isSome_closedBy_iff
    isCall := isCall
    once := once
    nested := by
      rintro i i' j j' h h' ⟨hii', hi'j, hjj'⟩
      obtain ⟨j'', hj'', h''⟩ := closed i j i' h hii' hi'j (isCall i' j' h').2
      have := once i' j' j'' h' h''
      omega
    closed := closed
    sameFunction := fun i j function => sameFunction_closedBy
    openCalls := openCalls
    depth := fun k hk => by rw [← openCalls k hk, List.length_reverse, CallStack.depth]
    top := fun k hk => by rw [← openCalls k hk, List.getLast?_reverse, CallStack.top] }

/-! ## No other pairing -/

/-- Two pairings that agree on the returns before `j` cannot send `j` to different calls: the later of the two calls
would have been closed before `j`. -/
theorem IsPairing.not_lt_of_agree {partner partner' : Nat → Option Nat} (h : IsPairing rules messages partner)
    (h' : IsPairing rules messages partner') {i i' j : Nat} (hagree : ∀ k < j, partner k = partner' k)
    (hi : partner j = some i) (hi' : partner' j = some i') : ¬ i < i' := by
  intro hlt
  obtain ⟨hi'j, hicon⟩ := h'.isCall i' j hi'
  obtain ⟨k, hk, hpartner⟩ := h.closed i j i' hi hlt hi'j hicon
  rw [hagree k hk] at hpartner
  exact absurd (h'.once i' k j hpartner hi') (Nat.ne_of_lt hk)

theorem IsPairing.unique {partner partner' : Nat → Option Nat} (h : IsPairing rules messages partner)
    (h' : IsPairing rules messages partner') : partner = partner' := by
  funext j
  induction j using Nat.strongRecOn with
  | ind j ih =>
      have hsome : (partner j).isSome ↔ (partner' j).isSome := (h.isSome_iff j).trans (h'.isSome_iff j).symm
      cases hi : partner j with
      | none =>
          cases hi' : partner' j with
          | none => rfl
          | some i' => simp [hi, hi'] at hsome
      | some i =>
          cases hi' : partner' j with
          | none => simp [hi, hi'] at hsome
          | some i' =>
              have hle := h.not_lt_of_agree h' ih hi hi'
              have hge := h'.not_lt_of_agree h (fun k hk => (ih k hk).symm) hi' hi
              exact congrArg some (by omega)

/-! ## Refused returns -/

theorem kindAt?_eq_returnedAllocatedMemory_iff {j : Nat} :
    kindAt? messages j = some .returnedAllocatedMemory ↔ messages[j]? = some "Returned allocated memory" := by
  cases hm : messages[j]? with
  | none => simp [kindAt?, hm]
  | some m =>
      rw [kindAt?, hm, Option.map_some, Option.some_inj, Option.some_inj]
      exact StepKind.ofMessage_eq_returnedAllocatedMemory_iff

theorem mismatchAt?_eq_some_iff {j : Nat} {x : StackMismatch} :
    mismatchAt? rules messages j = some x ↔
      (∃ function, kindAt? messages j = some (.returning function) ∧ (stackAt rules messages j).top ≠ some function ∧
        x = ⟨j, some function, (stackAt rules messages j).top⟩) ∨
      (kindAt? messages j = some .returnedAllocatedMemory ∧ rules.strictAllocationReturns = true ∧
        (stackAt rules messages j).openCalls = [] ∧ x = ⟨j, none, none⟩) := by
  cases hm : messages[j]? with
  | none => simp [mismatchAt?, kindAt?, classifiedAt?_of_none hm, hm]
  | some m =>
      obtain ⟨c, next, hc, -, htakes⟩ := takes_at rules hm
      have hsteps := steps_stackAt rules (Nat.le_of_lt (List.getElem?_eq_some_iff.1 hm).1)
      rw [mismatchAt?, hc, Option.bind_some, kindAt?, hm, Option.map_some]
      generalize StepKind.ofMessage m = kind at htakes
      cases htakes with
      | opens function => simp
      | closes kind function rest hopen hkind =>
          rcases hkind with rfl | rfl <;> simp [CallStack.top, hopen]
      | closesNothing hopen hlax => simp [hlax]
      | refusesReturn function htop =>
          rw [CallStack.refuse_mismatch, hsteps, Option.some_inj, eq_comm]
          simp [htop]
      | refusesRelease hopen hstrict =>
          rw [CallStack.refuse_mismatch, hsteps, Option.some_inj, eq_comm]
          simp [CallStack.top, hopen, hstrict]
      | passes kind icon hkind => cases kind <;> cases hkind <;> simp

/-- **Returns and the calls that they close are paired in one way only, and a return that does not name the call on top
is a mismatch.** So is memory that is returned under strict rules where no call is open. -/
theorem existsUnique_isPairing_and_mismatch_iff (rules : StackRules) (messages : List String) :
    (∃! partner, IsPairing rules messages partner) ∧
      ∀ j x, mismatchAt? rules messages j = some x ↔
        (∃ function, kindAt? messages j = some (.returning function) ∧
          (stackAt rules messages j).top ≠ some function ∧
          x = ⟨j, some function, (stackAt rules messages j).top⟩) ∨
        (messages[j]? = some "Returned allocated memory" ∧ rules.strictAllocationReturns = true ∧
          (stackAt rules messages j).openCalls = [] ∧ x = ⟨j, none, none⟩) :=
  ⟨⟨closedBy rules messages, isPairing_closedBy rules messages,
      fun _ h => h.unique (isPairing_closedBy rules messages)⟩,
    fun _ _ => by rw [← kindAt?_eq_returnedAllocatedMemory_iff]; exact mismatchAt?_eq_some_iff⟩

end

end DefectTrail
