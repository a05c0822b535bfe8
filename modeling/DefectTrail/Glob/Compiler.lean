import DefectTrail.Glob.Nesting
import DefectTrail.Glob.Strategy

/-!
# Making expressions of patterns

What makes expressions of patterns is not part of this library, and may refuse patterns, as an expression must not be
too large. `Glob.Compiler` says what is relied on: patterns of too many levels are refused, and patterns that need no
expression are not. `Glob.Compiler.nesting` refuses nothing but patterns of too many levels.
-/

namespace DefectTrail.Glob

/-- What makes expressions of patterns. -/
class Compiler where
  /-- Why patterns are refused, if they are. -/
  refusal? : List (List Token) → Option String
  tooDeep_of_accepted {patterns : List (List Token)} (h : refusal? patterns = none) :
    ∀ pattern ∈ patterns, tooDeep pattern = false
  accepted_of_texts {patterns : List (List Token)}
    (h : ∀ pattern ∈ patterns, (strategy pattern).isExpression = false) : refusal? patterns = none

/-! ## Patterns without an expression -/

section
variable {pattern : List Token}

theorem tokensLevels_append (a b : List Token) : tokensLevels (a ++ b) = max (tokensLevels a) (tokensLevels b) := by
  induction a with
  | nil => exact (Nat.zero_max _).symm
  | cons t a ih =>
    rw [List.cons_append, tokensLevels, tokensLevels, ih]
    exact (Nat.max_assoc ..).symm

/-- Texts have no levels. -/
theorem tokensLevels_of_isSome_literalText? (h : (literalText? pattern).isSome) : tokensLevels pattern = 0 := by
  induction pattern with
  | nil => rfl
  | cons t ts ih =>
    cases t with
    | literal c =>
      rw [literalText?, Option.isSome_map] at h
      rw [tokensLevels, ih h]
      rfl
    | _ => cases h

theorem tokensLevels_le_of_splitLeadingDirs (pattern : List Token) :
    tokensLevels pattern ≤ max 4 (tokensLevels (splitLeadingDirs pattern).2) := by
  unfold splitLeadingDirs
  split
  · exact Nat.le_refl _
  · exact Nat.le_max_right ..

theorem tokensLevels_le_of_splitStar (pattern : List Token) :
    tokensLevels pattern ≤ max 1 (tokensLevels (splitStar pattern).2) := by
  unfold splitStar
  split
  · exact Nat.le_refl _
  · exact Nat.le_max_right ..

theorem tokensLevels_le_of_isBeginning (h : isBeginning pattern = true) : tokensLevels pattern ≤ 1 := by
  have hends {t : Token} (hlast : pattern.getLast? = some t) (htext : (literalText? pattern.dropLast).isSome) :
      tokensLevels pattern = max 0 (tokensLevels [t]) := by
    obtain ⟨text, rfl⟩ := List.getLast?_eq_some_iff.1 hlast
    rw [List.dropLast_concat] at htext
    rw [tokensLevels_append, tokensLevels_of_isSome_literalText? htext]
  unfold isBeginning at h
  split at h
  · next hlast => exact Nat.le_of_eq (hends hlast h)
  · next hlast => exact Nat.le_of_eq (hends hlast h)
  · cases h

/-- A pattern that needs no expression has few levels. -/
theorem tokensLevels_le_of_not_isExpression (h : (strategy pattern).isExpression = false) :
    tokensLevels pattern ≤ 4 := by
  have hdirs := tokensLevels_le_of_splitLeadingDirs pattern
  have hstar := tokensLevels_le_of_splitStar (splitLeadingDirs pattern).2
  simp only [strategy] at h
  split at h
  · next text htext =>
    have hrest : tokensLevels (splitStar (splitLeadingDirs pattern).2).2 = 0 :=
      tokensLevels_of_isSome_literalText? (Option.isSome_iff_exists.2 ⟨text, htext⟩)
    omega
  · split at h
    · next hbeginning =>
      have := tokensLevels_le_of_isBeginning hbeginning
      omega
    · split at h <;> cases h

theorem tooDeep_of_not_isExpression (h : (strategy pattern).isExpression = false) : tooDeep pattern = false := by
  have hlevels := tokensLevels_le_of_not_isExpression h
  rw [tooDeep_eq_false_iff, maxLevels]
  omega

end

/-! ## A compiler that looks at nesting alone -/

namespace Compiler

/-- What is said about an expression that is nested too deep, by its position among those made together. -/
def tooDeepText (index : Nat) : String := "error parsing pattern " ++ toString index

/-- Refuses patterns of too many levels: those made on their own come first, then those made together. -/
def nestingRefusal? (patterns : List (List Token)) : Option String :=
  if patterns.any fun pattern => strategy pattern = .requiredExtension && tooDeep pattern then some (tooDeepText 0)
  else ((patterns.filter fun pattern => strategy pattern = .expression).findIdx? tooDeep).map tooDeepText

theorem nestingRefusal?_eq_none_iff {patterns : List (List Token)} :
    nestingRefusal? patterns = none ↔ ∀ pattern ∈ patterns, tooDeep pattern = false := by
  unfold nestingRefusal?
  constructor
  · intro h pattern hpattern
    split at h
    · cases h
    · next hown =>
      rw [Option.map_eq_none_iff, List.findIdx?_eq_none_iff] at h
      cases hstrategy : strategy pattern with
      | name | extension | text => exact tooDeep_of_not_isExpression (by rw [hstrategy]; rfl)
      | expression => exact h pattern (List.mem_filter.2 ⟨hpattern, decide_eq_true hstrategy⟩)
      | requiredExtension =>
        rw [Bool.not_eq_true, List.any_eq_false] at hown
        simpa [hstrategy] using hown pattern hpattern
  · intro h
    rw [if_neg, Option.map_eq_none_iff, List.findIdx?_eq_none_iff]
    · exact fun pattern hpattern => h pattern (List.mem_filter.1 hpattern).1
    · rw [Bool.not_eq_true, List.any_eq_false]
      intro pattern hpattern
      simp [h pattern hpattern]

instance nesting : Compiler where
  refusal? := nestingRefusal?
  tooDeep_of_accepted h := nestingRefusal?_eq_none_iff.1 h
  accepted_of_texts h := nestingRefusal?_eq_none_iff.2 fun pattern hpattern =>
    tooDeep_of_not_isExpression (h pattern hpattern)

end Compiler

end DefectTrail.Glob
