import DefectTrail.Json

/-!
# Records

A record is written as an object with a member for each field, in any order, or as an array of the fields' values in
their declared order. `Json.fields?` brings both forms to one: for each declared field its value, or `none` where the
field is left out, which its `Presence` must allow.
-/

namespace DefectTrail.Json

/-- Where a field may be left out. -/
inductive Presence where
  /-- Nowhere. -/
  | required
  /-- In an object, which then gives the field no value, but not at the end of an array. -/
  | nullable
  /-- In an object and at the end of an array. -/
  | defaulted
  deriving DecidableEq

structure Field where
  name : String
  presence : Presence
  deriving DecidableEq

/-- The declared fields of a record; a closed record has no members besides them. -/
structure Shape where
  fields : List Field
  closed : Bool

/-- The value of one field in an object; a repeated member is refused. -/
def Field.find? (f : Field) (members : List (String × Json)) : Option (Option Json) :=
  match members.filter (·.1 == f.name) with
  | [] => if f.presence = .required then none else some none
  | [(_, v)] => some (some v)
  | _ => none

/-- The values of an array's items as the leading fields; the fields that are left over must be defaulted. -/
def positional? : List Field → List Json → Option (List (Option Json))
  | [], [] => some []
  | [], _ :: _ => none
  | f :: fs, [] => if f.presence = .defaulted then (positional? fs []).map (none :: ·) else none
  | _ :: fs, v :: vs => (positional? fs vs).map (some v :: ·)

/-- The fields' values in their declared order. -/
def fields? (shape : Shape) : Json → Option (List (Option Json))
  | .object members =>
    if shape.closed && members.any (fun m => shape.fields.all (·.name != m.1)) then none
    else shape.fields.mapM (·.find? members)
  | .array items => positional? shape.fields items
  | _ => none

/-- A field without which the value is `none`. -/
def optional? {α : Type} (value : Json → Option α) : Option Json → Option (Option α)
  | none => some none
  | some v => v.ofNullable? value

/-- A field without which the value is `default`. -/
def defaulted? {α : Type} (default : α) (value : Json → Option α) : Option Json → Option α
  | none => some default
  | some v => value v

end DefectTrail.Json
