import DefectTrail.Proofs.Step.Recognition

/-!
# The grammar of messages

Each rule has a form of message, and recognition finds exactly these forms and, in those of calls and returns, exactly the
names that were put there.

* `Rule.Recognises` : the forms, written out; `Rule.recognises_iff` : a rule applies to the messages of its form;
* `EndsInQuote`, `nameIn_eq_iff` : the texts that give a name; `nameIn_closed_eq_iff` : where a closing quote does not
  matter;
* `ofMessage_eq_calling_iff`, `ofMessage_eq_returning_iff`, `ofMessage_eq_plain_iff` : the messages of calls, of returns,
  and those of no form;
* `ofRules_eq_ofMessage_iff` : the orders of the rules that do as well as `Rule.priority`;
* `messages_are_recognised_by_their_form` : the statement as a whole.
-/

namespace DefectTrail.StepKind

/-! ## Forms -/

namespace Rule

/-- The messages of a rule's form. -/
inductive Recognises : Rule → String → Prop
  | calling (rest : String) : Recognises .calling ("Calling '" ++ rest)
  | enteredCall (rest : String) : Recognises .enteredCall ("Entered call from " ++ rest)
  | returning (rest : String) : Recognises .returning ("Returning from '" ++ rest)
  | returnedAllocatedMemory : Recognises .returnedAllocatedMemory "Returned allocated memory"
  | assumingCondition (rest : String) : Recognises .assumingCondition ("Assuming the condition" ++ rest)
  | assuming (rest : String) : Recognises .assuming ("Assuming" ++ rest)
  | enteringLoopBody : Recognises .enteringLoopBody "Entering loop body"
  | loopBodyExecuted (rest : String) : Recognises .loopBodyExecuted ("Loop body executed" ++ rest)
  | loopBack : Recognises .loopBack "Looping back to the head of the loop"

theorem recognises_iff {rule : Rule} {message : String} :
    rule.Recognises message ↔ ∃ k, rule.kindOf? message = some k := by
  constructor
  · intro h
    cases h with
    | returnedAllocatedMemory | enteringLoopBody | loopBack =>
        exact ⟨_, kindOf?_text _⟩
    | calling rest | enteredCall rest | returning rest | assumingCondition rest | assuming rest | loopBodyExecuted rest =>
        exact ⟨_, kindOf?_text_append _ rfl rest⟩
  · rintro ⟨k, hk⟩
    obtain ⟨rest, rfl, hexact, -⟩ := kindOf?_eq_some_iff.1 hk
    cases rule with
    | returnedAllocatedMemory | enteringLoopBody | loopBack =>
        rw [hexact rfl, String.append_empty]
        constructor
    | calling | enteredCall | returning | assumingCondition | assuming | loopBodyExecuted =>
        constructor

theorem not_recognises_iff {rule : Rule} {message : String} :
    ¬ rule.Recognises message ↔ rule.kindOf? message = none := by
  rw [recognises_iff, Option.eq_none_iff_forall_ne_some, not_exists]

theorem eq_or_of_recognises {r r' : Rule} {message : String} (h : r.Recognises message) (h' : r'.Recognises message) :
    r = r' ∨ r = .assuming ∧ r' = .assumingCondition ∨ r = .assumingCondition ∧ r' = .assuming := by
  obtain ⟨k, hk⟩ := recognises_iff.1 h
  obtain ⟨k', hk'⟩ := recognises_iff.1 h'
  exact eq_or_of_kindOf? hk hk'

theorem recognises_assuming_of_condition {message : String} (h : assumingCondition.Recognises message) :
    assuming.Recognises message := by
  cases h with
  | assumingCondition rest =>
      have htext : "Assuming the condition" ++ rest = "Assuming" ++ (" the condition" ++ rest) := by
        rw [← String.append_assoc]
        rfl
      rw [htext]
      exact .assuming _

end Rule

/-! ## Names -/

/-- A quote stands at the end of the text. -/
def EndsInQuote (text : String) : Prop := ∃ stem, text = stem ++ "'"

theorem endsInQuote_iff {text : String} : EndsInQuote text ↔ text.toList.getLast? = some '\'' := by
  rw [List.getLast?_eq_some_iff]
  constructor
  · rintro ⟨stem, rfl⟩
    exact ⟨stem.toList, String.toList_append⟩
  · rintro ⟨stem, hstem⟩
    refine ⟨String.ofList stem, ?_⟩
    rw [← String.toList_inj, String.toList_append, String.toList_ofList]
    exact hstem

theorem nameIn_eq_self_iff {text : String} : nameIn text = text ↔ ¬ EndsInQuote text := by
  constructor
  · rintro h ⟨stem, rfl⟩
    rw [nameIn_quoted] at h
    exact absurd (congrArg String.length h) (by simp)
  · intro h
    rw [nameIn, dropClosingQuote, if_neg (mt endsInQuote_iff.2 h), String.ofList_toList]

/-- A name is given with a quote after it, or as it is if it does not end in a quote. -/
theorem nameIn_eq_iff {text name : String} :
    nameIn text = name ↔ text = name ++ "'" ∨ text = name ∧ ¬ EndsInQuote name := by
  constructor
  · rintro rfl
    by_cases hends : EndsInQuote text
    · obtain ⟨stem, rfl⟩ := hends
      exact Or.inl (congrArg (· ++ "'") (nameIn_quoted stem).symm)
    · rw [nameIn_eq_self_iff.2 hends]
      exact Or.inr ⟨rfl, hends⟩
  · rintro (rfl | ⟨rfl, hends⟩)
    · exact nameIn_quoted name
    · exact nameIn_eq_self_iff.2 hends

/-- The closing quote may be there or not after names that do not end in a quote, and after no others. -/
theorem nameIn_closed_eq_iff {name closing closing' : String} (h : closing ∈ ["", "'"]) (h' : closing' ∈ ["", "'"]) :
    nameIn (name ++ closing) = nameIn (name ++ closing') ↔ closing = closing' ∨ ¬ EndsInQuote name := by
  rw [List.mem_pair] at h h'
  rcases h with rfl | rfl <;> rcases h' with rfl | rfl
  · simp
  · rw [nameIn_quoted, String.append_empty, nameIn_eq_self_iff]
    simp
  · rw [nameIn_quoted, String.append_empty, eq_comm, nameIn_eq_self_iff]
    simp
  · simp

/-! ## Messages -/

/-- A rule decides about the messages of its form, that for an assumption about those that are no conditions. -/
theorem exists_ofMessage_eq_kind_iff {rule : Rule} {message : String} :
    (∃ rest, ofMessage message = rule.kind rest) ↔
      rule.Recognises message ∧ (rule = .assuming → ¬ Rule.assumingCondition.Recognises message) := by
  rw [Rule.not_recognises_iff, Rule.recognises_iff]
  constructor
  · rintro ⟨rest, h⟩
    rcases ofMessage_eq_iff.1 h with ⟨rule', hrule', hassuming⟩ | ⟨hplain, -⟩
    · obtain rfl := Rule.eq_of_kindOf?_eq_kind hrule'
      exact ⟨⟨_, hrule'⟩, hassuming⟩
    · exact absurd hplain (rule.kind_ne_plain rest)
  · rintro ⟨⟨k, hk⟩, hassuming⟩
    obtain ⟨rest, -, -, rfl⟩ := Rule.kindOf?_eq_some_iff.1 hk
    exact ⟨rest.toList, ofMessage_eq_iff.2 (Or.inl ⟨rule, hk, hassuming⟩)⟩

theorem ofMessage_eq_plain_iff {message : String} :
    ofMessage message = .plain ↔ ∀ rule : Rule, ¬ rule.Recognises message := by
  simp only [Rule.not_recognises_iff]
  constructor
  · intro h
    rcases ofMessage_eq_iff.1 h with ⟨rule, hrule, -⟩ | ⟨-, hnone⟩
    · exact absurd rfl (Rule.ne_plain_of_kindOf? hrule)
    · exact hnone
  · exact fun hnone => ofMessage_eq_iff.2 (Or.inr ⟨rfl, hnone⟩)

/-- Of a rule that takes a name from the message: the messages that give a name. -/
theorem ofMessage_eq_named_iff (rule : Rule) {named : String → StepKind}
    (hkind : ∀ text : String, rule.kind text.toList = named (nameIn text)) (hnamed : Function.Injective named)
    (hexact : rule.isExact = false) (hne : rule ≠ .assuming) {message name : String} :
    ofMessage message = named name ↔
      message = rule.text ++ name ++ "'" ∨ message = rule.text ++ name ∧ ¬ EndsInQuote name := by
  have happend (text : String) : ofMessage (rule.text ++ text) = named (nameIn text) := by
    rw [ofMessage_text_append rule hexact hne, hkind]
  constructor
  · intro h
    have hname : named name = rule.kind (name ++ "'").toList := by rw [hkind, nameIn_quoted]
    rw [hname, ofMessage_eq_kind_iff hne] at h
    obtain ⟨text, rfl, -, htext⟩ := Rule.kindOf?_eq_some_iff.1 h
    rw [← hname, hkind] at htext
    rcases nameIn_eq_iff.1 (hnamed htext) with rfl | ⟨rfl, hends⟩
    · exact Or.inl String.append_assoc.symm
    · exact Or.inr ⟨rfl, hends⟩
  · rintro (rfl | ⟨rfl, hends⟩)
    · rw [String.append_assoc, happend, nameIn_quoted]
    · rw [happend, nameIn_eq_self_iff.2 hends]

theorem ofMessage_eq_calling_iff {message function : String} :
    ofMessage message = .calling function ↔
      message = "Calling '" ++ function ++ "'" ∨ message = "Calling '" ++ function ∧ ¬ EndsInQuote function :=
  ofMessage_eq_named_iff .calling (fun _ => rfl) (fun _ _ => StepKind.calling.inj) rfl (by decide)

theorem ofMessage_eq_returning_iff {message function : String} :
    ofMessage message = .returning function ↔
      message = "Returning from '" ++ function ++ "'" ∨
        message = "Returning from '" ++ function ∧ ¬ EndsInQuote function :=
  ofMessage_eq_named_iff .returning (fun _ => rfl) (fun _ _ => StepKind.returning.inj) rfl (by decide)

theorem exists_ofMessage_eq_calling_and_returning_iff {text text' : String} :
    (∃ name, ofMessage ("Calling '" ++ text) = .calling name ∧ ofMessage ("Returning from '" ++ text') = .returning name) ↔
      nameIn text = nameIn text' := by
  rw [ofMessage_calling_append, ofMessage_returning_append]
  constructor
  · rintro ⟨name, hcall, hreturn⟩
    rw [StepKind.calling.inj hcall, StepKind.returning.inj hreturn]
  · exact fun h => ⟨nameIn text, rfl, congrArg StepKind.returning h.symm⟩

/-! ## Orders of the rules -/

theorem exists_first_of_ofRules {rules : List Rule} {rule : Rule} {message : String} {rest : List Char}
    (h : ofRules rules message = rule.kind rest) :
    ∃ before after, rules = before ++ rule :: after ∧ ∀ r ∈ before, ¬ r.Recognises message := by
  unfold ofRules at h
  cases hfind : rules.findSome? (·.kindOf? message) with
  | none =>
      rw [hfind] at h
      exact absurd h.symm (rule.kind_ne_plain rest)
  | some k =>
      rw [hfind, Option.getD_some] at h
      obtain ⟨before, rule', after, rfl, hrule', hbefore⟩ := List.findSome?_eq_some_iff.1 hfind
      rw [h] at hrule'
      obtain rfl := Rule.eq_of_kindOf?_eq_kind hrule'
      exact ⟨before, after, rfl, fun r hr => Rule.not_recognises_iff.2 (hbefore r hr)⟩

/-- The rules may be tried in any order that keeps the one for a condition before the one for an assumption, and in no
other. -/
theorem ofRules_eq_ofMessage_iff {rules : List Rule} (hperm : rules.Perm Rule.priority) :
    (∀ message, ofRules rules message = ofMessage message) ↔
      rules.idxOf .assumingCondition < rules.idxOf .assuming := by
  constructor
  · intro h
    -- a condition is found as one only if the rule for an assumption has not been tried yet
    have hfound : ofRules rules (Rule.assumingCondition.text ++ "") = Rule.assumingCondition.kind [] := by
      rw [h]
      exact ofMessage_text_append .assumingCondition rfl (by decide) ""
    obtain ⟨before, after, rfl, hbefore⟩ := exists_first_of_ofRules hfound
    have hassuming : Rule.assuming ∉ before := fun hmem =>
      hbefore _ hmem (Rule.recognises_assuming_of_condition (.assumingCondition ""))
    have hcondition : Rule.assumingCondition ∉ before := fun hmem => hbefore _ hmem (.assumingCondition "")
    rw [List.idxOf_append_of_notMem hassuming, List.idxOf_append_of_notMem hcondition, List.idxOf_cons_self,
      List.idxOf_cons_ne _ (by decide)]
    omega
  · intro horder message
    have hmem (rule : Rule) : rule ∈ rules := hperm.mem_iff.2 rule.mem_priority
    exact (ofRules_eq_iff hmem horder).2 (ofMessage_eq_iff.1 rfl)

/-! ## The grammar -/

/-- **A message is recognised by its form.** Each rule applies to the messages of its form and decides about them, and no
two rules apply to one message, except that the one for an assumption applies to conditions too: so exactly the orders
that try that for a condition first find the same. Calls and returns give the names that were put into them, also where
the closing quote is missing, unless the name ends in a quote itself. -/
theorem messages_are_recognised_by_their_form :
    (∀ (rule : Rule) message, (∃ k, rule.kindOf? message = some k) ↔ rule.Recognises message) ∧
    (∀ (rule : Rule) message, (∃ rest, ofMessage message = rule.kind rest) ↔
      rule.Recognises message ∧ (rule = .assuming → ¬ Rule.assumingCondition.Recognises message)) ∧
    (∀ message function, ofMessage message = .calling function ↔
      message = "Calling '" ++ function ++ "'" ∨ message = "Calling '" ++ function ∧ ¬ EndsInQuote function) ∧
    (∀ message function, ofMessage message = .returning function ↔
      message = "Returning from '" ++ function ++ "'" ∨
        message = "Returning from '" ++ function ∧ ¬ EndsInQuote function) ∧
    (∀ function, ∀ closing ∈ ["", "'"], ∀ closing' ∈ ["", "'"],
      ((∃ name, ofMessage ("Calling '" ++ function ++ closing) = .calling name ∧
        ofMessage ("Returning from '" ++ function ++ closing') = .returning name) ↔
          closing = closing' ∨ ¬ EndsInQuote function)) ∧
    (∀ (rule rule' : Rule) message, rule.Recognises message → rule'.Recognises message →
      rule = rule' ∨ rule = .assuming ∧ rule' = .assumingCondition ∨ rule = .assumingCondition ∧ rule' = .assuming) ∧
    (∀ message, Rule.assumingCondition.Recognises message → Rule.assuming.Recognises message) ∧
    (∀ rules : List Rule, rules.Perm Rule.priority →
      ((∀ message, ofRules rules message = ofMessage message) ↔
        rules.idxOf .assumingCondition < rules.idxOf .assuming)) ∧
    ∀ message, ofMessage message = .plain ↔ ∀ rule : Rule, ¬ rule.Recognises message := by
  refine ⟨fun _ _ => Rule.recognises_iff.symm, fun _ _ => exists_ofMessage_eq_kind_iff,
    fun _ _ => ofMessage_eq_calling_iff, fun _ _ => ofMessage_eq_returning_iff, ?_,
    fun _ _ _ => Rule.eq_or_of_recognises, fun _ => Rule.recognises_assuming_of_condition,
    fun _ => ofRules_eq_ofMessage_iff, fun _ => ofMessage_eq_plain_iff⟩
  intro function closing hclosing closing' hclosing'
  rw [String.append_assoc, String.append_assoc]
  exact exists_ofMessage_eq_calling_and_returning_iff.trans (nameIn_closed_eq_iff hclosing hclosing')

/-- The rules from the last to the first, with that for a condition still before that for an assumption: on the call of a
function whose name ends in a quote, on a call without a closing quote and its return, and on a condition. -/
theorem messages_are_recognised_by_their_form_reversed :
    ∃ rules : List Rule, rules.Perm Rule.priority ∧ rules.idxOf .loopBack < rules.idxOf .calling ∧
      rules.idxOf .assumingCondition < rules.idxOf .assuming ∧
      ofRules rules "Calling 'operator''" = .calling "operator'" ∧
      (∃ name, ofRules rules "Calling 'open" = .calling name ∧ ofRules rules "Returning from 'open'" = .returning name) ∧
      Rule.assuming.Recognises "Assuming the condition is true" ∧
      ¬ Rule.calling.Recognises "Assuming the condition is true" := by
  obtain ⟨-, -, hcalling, -, hnames, htwo, hcondition, horder, -⟩ := messages_are_recognised_by_their_form
  have hperm : [Rule.loopBack, .loopBodyExecuted, .enteringLoopBody, .assumingCondition, .assuming,
      .returnedAllocatedMemory, .returning, .enteredCall, .calling].Perm Rule.priority := by decide
  have hsame := (horder _ hperm).2 (by decide)
  have hassuming := hcondition _ (.assumingCondition " is true")
  refine ⟨_, hperm, by decide, by decide, ?_, ?_, hassuming, fun h => ?_⟩
  · rw [hsame]
    exact (hcalling _ _).2 (Or.inl rfl)
  · rw [hsame, hsame]
    have hends : ¬ EndsInQuote "open" := by
      rw [endsInQuote_iff]
      decide
    exact (hnames "open" "" (by decide) "'" (by decide)).2 (Or.inr hends)
  · rcases htwo _ _ _ hassuming h with heq | ⟨-, heq⟩ | ⟨heq, -⟩ <;> cases heq

end DefectTrail.StepKind
