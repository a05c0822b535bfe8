import DefectTrail.Proofs.Step.Mismatches

/-!
# Names of functions come from messages

* `StepKind.mem_of_mem_function?` : the name in a call or a return is a part of its message;
* `exists_mem_of_mem_openCalls` : so is the name of each open call, of an earlier one;
* `exists_mem_of_mem_names` : and so are the names in a mismatch.
-/

namespace DefectTrail

namespace StepKind

theorem mem_of_mem_nameIn {text : String} {c : Char} (h : c ∈ (nameIn text).toList) : c ∈ text.toList := by
  rw [nameIn, String.toList_ofList, dropClosingQuote] at h
  split at h
  · exact List.dropLast_subset _ h
  · exact h

theorem mem_of_mem_function? {message function : String} (h : (ofMessage message).function? = some function) {c : Char}
    (hc : c ∈ function.toList) : c ∈ message.toList := by
  have hplain : ofMessage message ≠ .plain := by
    intro hplain
    rw [hplain] at h
    cases h
  obtain ⟨rule, hrule⟩ := exists_kindOf?_of_ofMessage rfl hplain
  obtain ⟨rest, rfl, -, hkind⟩ := Rule.kindOf?_eq_some_iff.1 hrule
  rw [← hkind] at h
  have hname : function = nameIn rest := by
    cases rule <;> cases h <;> rfl
  rw [hname] at hc
  rw [String.toList_append]
  exact List.mem_append_right _ (mem_of_mem_nameIn hc)

end StepKind

section
variable {rules : StackRules} {messages : List String} {i : Nat}

theorem exists_mem_of_mem_functionAt? {function : String} (h : functionAt? messages i = some function) {c : Char}
    (hc : c ∈ function.toList) : ∃ m ∈ messages, c ∈ m.toList := by
  obtain ⟨kind, hkind, hfunction⟩ := Option.bind_eq_some_iff.1 h
  obtain ⟨m, hm, rfl⟩ := Option.map_eq_some_iff.1 hkind
  exact ⟨m, List.mem_of_getElem? hm, StepKind.mem_of_mem_function? hfunction hc⟩

theorem exists_mem_of_mem_openCalls {function : String} (h : function ∈ (stackAt rules messages i).openCalls) {c : Char}
    (hc : c ∈ function.toList) : ∃ m ∈ messages, c ∈ m.toList := by
  have hmem : some function ∈ (openPositions rules messages i).map (functionAt? messages) := by
    rw [map_functionAt?_openPositions]
    exact List.mem_map_of_mem h
  obtain ⟨p, -, hp⟩ := List.mem_map.1 hmem
  exact exists_mem_of_mem_functionAt? hp hc

/-- The names in a mismatch, of the function returned from and of the innermost open call. -/
def StackMismatch.names (x : StackMismatch) : List String := x.returnedFrom.toList ++ x.stackTop.toList

theorem exists_mem_of_mem_names {x : StackMismatch} (h : mismatchAt? rules messages i = some x) {name : String}
    (hname : name ∈ x.names) {c : Char} (hc : c ∈ name.toList) : ∃ m ∈ messages, c ∈ m.toList := by
  rcases mismatchAt?_eq_some_iff.1 h with ⟨function, hkind, -, rfl⟩ | ⟨-, -, -, rfl⟩
  · rcases List.mem_append.1 hname with hname | hname
    · obtain rfl := List.mem_singleton.1 hname
      refine exists_mem_of_mem_functionAt? (i := i) ?_ hc
      rw [functionAt?, hkind]
      rfl
    · have htop : (stackAt rules messages i).top = some name := Option.mem_toList.1 hname
      exact exists_mem_of_mem_openCalls (List.mem_of_head? htop) hc
  · cases hname

end

end DefectTrail
