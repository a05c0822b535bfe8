import DefectTrail.Config
import DefectTrail.Proofs.Json.Record

/-!
# Reading configurations back

A configuration is written with all its fields, those that are not given as `null`, and read back from what is written.
An indent width that no 64-bit word holds can be written, but nothing reads it.

* `Config.ofJson?_toJson`, `Config.writable_toJson` : a configuration is a record that is read back;
* `Config.parse?_write` : **what the text of a configuration is read as**.
-/

namespace DefectTrail.Config

open Json (membersOf Suit Writable ReadAs IsWord)

variable {c : Config}

/-- The members of a configuration with the given value for its indent width, as they are written. -/
def fieldValues (c : Config) (indentWidth : Json) : List (Option Json) :=
  [some (Json.nullable (fun colors => .array (colors.map .string)) c.palette),
    some (Json.nullable .string c.fixitMarker), some (Json.nullable .bool c.strictAllocationReturns),
    some indentWidth, some (.array (c.exclude.map .string))]

theorem toJson_eq (c : Config) :
    c.toJson = .object (membersOf shape.fields (c.fieldValues (Json.nullable .ofNat c.indentWidth))) := rfl

/-- The fields are variables here, as the bound of the indent width is too large to compute with. -/
theorem ofJson?_of_fields? {v palette fixitMarker strict indentWidth exclude : Json}
    (hfields : v.fields? shape =
      some [some palette, some fixitMarker, some strict, some indentWidth, some exclude])
    (hpalette : Json.optional? (Json.ofArray? Json.ofString?) (some palette) = some c.palette)
    (hmarker : Json.optional? Json.ofString? (some fixitMarker) = some c.fixitMarker)
    (hstrict : Json.optional? Json.ofBool? (some strict) = some c.strictAllocationReturns)
    (hexclude : Json.ofArray? Json.ofString? exclude = some c.exclude) :
    ofJson? v = (Json.optional? Json.ofWord? (some indentWidth)).map fun width => { c with indentWidth := width } := by
  rw [ofJson?, hfields]
  simp only [Option.bind_eq_bind, Option.bind_some, hpalette, hmarker, hstrict, Json.defaulted?, hexclude]
  cases Json.optional? Json.ofWord? (some indentWidth) <;> rfl

theorem ofJson?_object (c : Config) (indentWidth : Json) :
    ofJson? (.object (membersOf shape.fields (c.fieldValues indentWidth))) =
      (Json.optional? Json.ofWord? (some indentWidth)).map fun width => { c with indentWidth := width } := by
  have hfields : (Json.object (membersOf shape.fields (c.fieldValues indentWidth))).fields? shape =
      some (c.fieldValues indentWidth) :=
    Json.fields?_object_membersOf (by decide) (by simp [Suit, shape, fieldValues])
  have hstrings (texts : List String) : Json.ofArray? Json.ofString? (.array (texts.map .string)) = some texts :=
    Json.ofArray?_map_of_mem fun _ _ => rfl
  exact ofJson?_of_fields? hfields (Json.optional?_nullable (fun _ _ => hstrings _) fun _ => Json.noConfusion)
    (Json.optional?_nullable (fun _ _ => rfl) fun _ => Json.noConfusion)
    (Json.optional?_nullable (fun _ _ => rfl) fun _ => Json.noConfusion) (hstrings _)

/-! ## Texts -/

theorem ofWord?_ofNat_of_le {n : Nat} (h : UInt64.size ≤ n) : Json.ofWord? (Json.ofNat n) = none := by
  rw [Json.ofNat, Json.ofWord?, if_neg]
  rintro ⟨-, hlt⟩
  exact absurd (Int.ofNat_lt.1 hlt) (Nat.not_lt.2 h)

/-- A width is read back if a 64-bit word holds it, and not at all otherwise. -/
theorem exists_readAs_indentWidth (width : Option Nat) (depth : Nat) :
    ∃ v, ReadAs depth (Json.nullable .ofNat width) v ∧
      Json.optional? Json.ofWord? (some v) = if ∀ w ∈ width, w < UInt64.size then some width else none := by
  cases width with
  | none => exact ⟨.null, .null, (if_pos nofun).symm⟩
  | some w =>
      obtain ⟨large, hread, hlarge⟩ := Json.ofLiteral?_toString_eq w
      rw [Int.natAbs_natCast] at hlarge
      refine ⟨_, .int hread, ?_⟩
      simp only [Option.mem_some_iff, forall_eq']
      by_cases hw : w < UInt64.size
      · have hword : ∀ n ∈ some w, Json.ofWord? (Json.ofNat n) = some n := by
          intro n hn
          obtain rfl := Option.some.inj hn
          exact Json.ofWord?_ofNat hw
        rw [hlarge hw, if_pos hw]
        exact @Json.optional?_nullable Nat Json.ofWord? Json.ofNat (some w) hword fun _ => Json.noConfusion
      · rw [if_neg hw]
        cases large with
        | true => rfl
        | false =>
            have hnone : Json.ofWord? (.int w) = none := ofWord?_ofNat_of_le (Nat.not_lt.1 hw)
            show (Json.ofWord? (.int w)).map some = none
            rw [hnone, Option.map_none]

/-- The members are read one by one; only that of the indent width is not read as itself. -/
theorem readAs_members {depth : Nat} {palette fixitMarker strict indentWidth indentWidth' exclude : Json}
    (hself : ∀ v ∈ [palette, fixitMarker, strict, exclude], Writable IsWord depth v)
    (hwidth : ReadAs depth indentWidth indentWidth') :
    ReadAs (depth + 1)
      (.object (membersOf shape.fields
        [some palette, some fixitMarker, some strict, some indentWidth, some exclude]))
      (.object (membersOf shape.fields
        [some palette, some fixitMarker, some strict, some indentWidth', some exclude])) := by
  simp only [List.forall_mem_cons] at hself
  obtain ⟨hpalette, hmarker, hstrict, hexclude, -⟩ := hself
  have hmembers : ∀ m ∈ [("palette", palette, palette), ("fixit_marker", fixitMarker, fixitMarker),
      ("strict_allocation_returns", strict, strict), ("indent_width", indentWidth, indentWidth'),
      ("exclude", exclude, exclude)], ReadAs depth m.2.1 m.2.2 := by
    simp only [List.forall_mem_cons]
    exact ⟨hpalette.readAs, hmarker.readAs, hstrict.readAs, hwidth, hexclude.readAs, List.forall_mem_nil _⟩
  exact ReadAs.object Prod.fst hmembers

theorem exists_readAs (c : Config) (depth : Nat) :
    ∃ v, ReadAs (depth + 2) c.toJson v ∧
      ofJson? v = if ∀ width ∈ c.indentWidth, width < UInt64.size then some c else none := by
  obtain ⟨width, hwidth, hvalue⟩ := exists_readAs_indentWidth c.indentWidth (depth + 1)
  refine ⟨.object (membersOf shape.fields (c.fieldValues width)), readAs_members ?_ hwidth, ?_⟩
  · simp only [List.forall_mem_cons]
    exact ⟨.nullable fun colors _ => .list fun color _ => .string color, .nullable fun marker _ => .string marker,
      .nullable fun b _ => .bool b, .list fun pattern _ => .string pattern, List.forall_mem_nil _⟩
  · rw [ofJson?_object, hvalue]
    split <;> rfl

/-- **A configuration is read back from its text, unless its indent width is too large.** -/
theorem parse?_write (c : Config) {write : Json → String} (hwrite : write ∈ [Json.compact, Json.pretty]) :
    (Json.parse? (write c.toJson)).bind ofJson? =
      if ∀ width ∈ c.indentWidth, width < UInt64.size then some c else none := by
  obtain ⟨v, hread, hvalue⟩ := exists_readAs c 125
  rw [hread.parse?_write hwrite, Option.bind_some, hvalue]

end DefectTrail.Config
