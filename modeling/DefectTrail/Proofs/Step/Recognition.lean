import DefectTrail.Step.Kind
import Mathlib.Data.List.Sort

/-!
# Which messages are recognised

* `Rule.kindOf?_eq_some_iff` : a rule applies to its text followed by some rest, which is empty for an exact rule;
* `Rule.eq_or_of_kindOf?` : no two rules apply to one message, except that for a condition and that for an assumption;
* `ofRules_eq_iff` : so what rules make of a message is the same for all orders that keep those two;
* `ofMessage_eq_of_kindOf?`, `ofMessage_eq_kind_iff` : and a rule that applies decides, whatever rules are tried before it;
* `ofMessage_calling_append`, `ofMessage_returning_append`, `ofMessage_enteredCall`,
  `ofMessage_eq_returnedAllocatedMemory_iff` : the messages that open and close calls.
-/

namespace DefectTrail.StepKind

/-! ## One rule -/

namespace Rule

theorem kindOf?_eq_some_iff {rule : Rule} {message : String} {k : StepKind} :
    rule.kindOf? message = some k ↔
      ∃ rest : String, message = rule.text ++ rest ∧ (rule.isExact = true → rest = "") ∧ rule.kind rest.toList = k := by
  unfold kindOf?
  cases h : rule.text.toList.isPrefixOf? message.toList with
  | none =>
      simp only [reduceCtorEq, false_iff, not_exists, not_and]
      rintro rest rfl
      rw [String.toList_append, List.isPrefixOf?_eq_some_iff_append_eq.2 rfl] at h
      cases h
  | some rest =>
      rw [List.isPrefixOf?_eq_some_iff_append_eq] at h
      have hunique (rest' : String) : message = rule.text ++ rest' ↔ rest' = String.ofList rest := by
        rw [← String.toList_inj, String.toList_append, ← h, List.append_cancel_left_eq, ← String.toList_inj,
          String.toList_ofList, eq_comm]
      simp only [hunique, exists_eq_left, String.toList_ofList]
      cases rest <;> cases rule.isExact <;> simp

theorem kindOf?_text_append (rule : Rule) (h : rule.isExact = false) (rest : String) :
    rule.kindOf? (rule.text ++ rest) = some (rule.kind rest.toList) := by
  refine kindOf?_eq_some_iff.2 ⟨rest, rfl, fun hexact => ?_, rfl⟩
  rw [h] at hexact
  cases hexact

theorem kindOf?_text (rule : Rule) : rule.kindOf? rule.text = some (rule.kind []) :=
  kindOf?_eq_some_iff.2 ⟨"", String.append_empty.symm, fun _ => rfl, rfl⟩

theorem kind_ne_plain (rule : Rule) (rest : List Char) : rule.kind rest ≠ .plain := by
  cases rule <;> exact StepKind.noConfusion

theorem eq_of_kind_eq {r r' : Rule} {rest rest' : List Char} (h : r.kind rest = r'.kind rest') : r = r' := by
  cases r <;> cases r' <;> simp_all [kind]

theorem ne_plain_of_kindOf? {rule : Rule} {message : String} {k : StepKind} (h : rule.kindOf? message = some k) :
    k ≠ .plain := by
  obtain ⟨rest, -, -, rfl⟩ := kindOf?_eq_some_iff.1 h
  exact rule.kind_ne_plain _

theorem eq_of_kindOf?_eq_kind {r r' : Rule} {message : String} {rest : List Char}
    (h : r.kindOf? message = some (r'.kind rest)) : r = r' := by
  obtain ⟨rest', -, -, hkind⟩ := kindOf?_eq_some_iff.1 h
  exact eq_of_kind_eq hkind

/-! ## Two rules -/

theorem text_prefix_of_kindOf? {rule : Rule} {message : String} {k : StepKind} (h : rule.kindOf? message = some k) :
    rule.text.toList <+: message.toList := by
  obtain ⟨rest, rfl, -⟩ := kindOf?_eq_some_iff.1 h
  exact ⟨rest.toList, String.toList_append.symm⟩

theorem eq_or_of_text_prefix {r r' : Rule} (h : r.text.toList <+: r'.text.toList) :
    r = r' ∨ r = .assuming ∧ r' = .assumingCondition := by
  rw [← List.isPrefixOf_iff_prefix] at h
  revert h
  cases r <;> cases r' <;> simp [text]

theorem eq_or_of_kindOf? {r r' : Rule} {message : String} {k k' : StepKind} (h : r.kindOf? message = some k)
    (h' : r'.kindOf? message = some k') :
    r = r' ∨ r = .assuming ∧ r' = .assumingCondition ∨ r = .assumingCondition ∧ r' = .assuming := by
  have hprefix := text_prefix_of_kindOf? h
  have hprefix' := text_prefix_of_kindOf? h'
  -- of two texts that the message begins with, one begins the other
  rcases List.prefix_or_prefix_of_prefix hprefix hprefix' with hp | hp
  · rcases eq_or_of_text_prefix hp with heq | hpair
    · exact Or.inl heq
    · exact Or.inr (Or.inl hpair)
  · rcases eq_or_of_text_prefix hp with heq | hpair
    · exact Or.inl heq.symm
    · exact Or.inr (Or.inr ⟨hpair.2, hpair.1⟩)

end Rule

/-! ## All rules -/

/-- The rule that decides about a message, wherever it stands: one that applies, but not the rule for an assumption where
that for a condition applies as well. -/
def Rule.Decides (rule : Rule) (message : String) (k : StepKind) : Prop :=
  rule.kindOf? message = some k ∧ (rule = .assuming → Rule.assumingCondition.kindOf? message = none)

theorem Rule.Decides.unique {r r' : Rule} {message : String} {k k' : StepKind} (h : r.Decides message k)
    (h' : r'.Decides message k') : k = k' := by
  rcases Rule.eq_or_of_kindOf? h.1 h'.1 with rfl | ⟨rfl, rfl⟩ | ⟨rfl, rfl⟩
  · exact Option.some.inj (h.1.symm.trans h'.1)
  · cases (h.2 rfl).symm.trans h'.1
  · cases (h'.2 rfl).symm.trans h.1

section
variable {rules : List Rule} {message : String} {k : StepKind}

theorem exists_decides_of_findSome? (horder : rules.idxOf .assumingCondition < rules.idxOf .assuming)
    (h : rules.findSome? (·.kindOf? message) = some k) : ∃ rule : Rule, rule.Decides message k := by
  obtain ⟨before, rule, after, rfl, hrule, hbefore⟩ := List.findSome?_eq_some_iff.1 h
  refine ⟨rule, hrule, ?_⟩
  rintro rfl
  -- the rule for an assumption is the first to apply, so that for a condition is among those tried before it
  have hassuming : Rule.assuming ∉ before := by
    intro hmem
    cases (hbefore _ hmem).symm.trans hrule
  rw [List.idxOf_append_of_notMem hassuming, List.idxOf_cons_self] at horder
  by_contra hne
  have hcondition : Rule.assumingCondition ∉ before := fun hmem => hne (hbefore _ hmem)
  rw [List.idxOf_append_of_notMem hcondition] at horder
  omega

/-- What rules make of a message does not depend on their order, as long as that for a condition comes before that for an
assumption. -/
theorem ofRules_eq_iff (hmem : ∀ rule, rule ∈ rules)
    (horder : rules.idxOf .assumingCondition < rules.idxOf .assuming) :
    ofRules rules message = k ↔
      (∃ rule : Rule, rule.Decides message k) ∨ k = .plain ∧ ∀ rule : Rule, rule.kindOf? message = none := by
  unfold ofRules
  cases hfind : rules.findSome? (·.kindOf? message) with
  | none =>
      have hnone (rule : Rule) : rule.kindOf? message = none := List.findSome?_eq_none_iff.1 hfind rule (hmem rule)
      constructor
      · rintro rfl
        exact Or.inr ⟨rfl, hnone⟩
      · rintro (⟨rule, hrule, -⟩ | ⟨rfl, -⟩)
        · cases (hnone rule).symm.trans hrule
        · rfl
  | some k' =>
      obtain ⟨rule, hrule⟩ := exists_decides_of_findSome? horder hfind
      constructor
      · rintro rfl
        exact Or.inl ⟨rule, hrule⟩
      · rintro (⟨rule', hrule'⟩ | ⟨-, hnone⟩)
        · exact hrule.unique hrule'
        · cases (hnone rule).symm.trans hrule.1

theorem ofMessage_eq_iff : ofMessage message = k ↔
    (∃ rule : Rule, rule.Decides message k) ∨ k = .plain ∧ ∀ rule : Rule, rule.kindOf? message = none :=
  ofRules_eq_iff Rule.mem_priority (by decide)

theorem exists_kindOf?_of_ofMessage (h : ofMessage message = k) (hk : k ≠ .plain) :
    ∃ rule : Rule, rule.kindOf? message = some k := by
  rcases ofMessage_eq_iff.1 h with ⟨rule, hrule, -⟩ | ⟨hplain, -⟩
  · exact ⟨rule, hrule⟩
  · exact absurd hplain hk

/-- The rule for an assumption is left out, as it also applies to conditions. -/
theorem ofMessage_eq_of_kindOf? {rule : Rule} (h : rule.kindOf? message = some k) (hne : rule ≠ .assuming) :
    ofMessage message = k :=
  ofMessage_eq_iff.2 (Or.inl ⟨rule, h, fun heq => absurd heq hne⟩)

end

theorem ofMessage_eq_kind_iff {rule : Rule} (hne : rule ≠ .assuming) {message : String} {rest : List Char} :
    ofMessage message = rule.kind rest ↔ rule.kindOf? message = some (rule.kind rest) := by
  refine ⟨fun h => ?_, fun h => ofMessage_eq_of_kindOf? h hne⟩
  obtain ⟨rule', hrule'⟩ := exists_kindOf?_of_ofMessage h (rule.kind_ne_plain rest)
  rwa [Rule.eq_of_kindOf?_eq_kind hrule'] at hrule'

theorem ofMessage_text_append (rule : Rule) (hexact : rule.isExact = false) (hne : rule ≠ .assuming) (rest : String) :
    ofMessage (rule.text ++ rest) = rule.kind rest.toList :=
  ofMessage_eq_of_kindOf? (rule.kindOf?_text_append hexact rest) hne

/-! ## Calls and returns -/

/-- The name that the text after an opening quote gives. -/
def nameIn (text : String) : String := String.ofList (dropClosingQuote text.toList)

theorem nameIn_quoted (name : String) : nameIn (name ++ "'") = name := by
  rw [nameIn, String.toList_append]
  simp [dropClosingQuote]

theorem ofMessage_calling_append (text : String) : ofMessage ("Calling '" ++ text) = .calling (nameIn text) :=
  ofMessage_text_append .calling rfl (by decide) text

theorem ofMessage_returning_append (text : String) : ofMessage ("Returning from '" ++ text) = .returning (nameIn text) :=
  ofMessage_text_append .returning rfl (by decide) text

theorem ofMessage_calling (function : String) :
    ofMessage ("Calling '" ++ function ++ "'") = .calling function := by
  rw [String.append_assoc, ofMessage_calling_append, nameIn_quoted]

theorem ofMessage_returning (function : String) :
    ofMessage ("Returning from '" ++ function ++ "'") = .returning function := by
  rw [String.append_assoc, ofMessage_returning_append, nameIn_quoted]

theorem ofMessage_enteredCall (caller : String) : ofMessage ("Entered call from " ++ caller) = .enteredCall :=
  ofMessage_text_append .enteredCall rfl (by decide) caller

theorem ofMessage_eq_returnedAllocatedMemory_iff {message : String} :
    ofMessage message = .returnedAllocatedMemory ↔ message = "Returned allocated memory" := by
  have hkind : StepKind.returnedAllocatedMemory = Rule.returnedAllocatedMemory.kind [] := rfl
  rw [hkind, ofMessage_eq_kind_iff (by decide)]
  constructor
  · intro h
    obtain ⟨rest, rfl, hexact, -⟩ := Rule.kindOf?_eq_some_iff.1 h
    rw [hexact rfl, String.append_empty]
    rfl
  · rintro rfl
    exact Rule.kindOf?_text _

end DefectTrail.StepKind
