/-!
# JSON values

A JSON value as written: members keep their order and their repetitions, and a number is either an integer
literal, with its exact value, or any other literal (`real`), which no field of this library accepts and which is
kept as its text. `-0` is a `real`: it is no integer of its own.

A text can be well formed and still hold a value that cannot be read (`unreadable`): a number that is too large, a
string with a surrogate that has no partner, an object with such a name for a member, arrays and objects nested too
deep. No reader takes such a value. It does no harm where nothing is read, as in a member that a record does not know,
but documents that are read as a whole (`Json.isReadable`) have none.
-/

namespace DefectTrail

inductive Json where
  | null
  | bool (value : Bool)
  | int (value : Int)
  | real (literal : String)
  | string (value : String)
  | array (items : List Json)
  | object (members : List (String × Json))
  | unreadable
  deriving Inhabited

namespace Json

/-! ## Values that can be read -/

mutual

/-- Whether a value and all values inside it can be read. -/
def isReadable : Json → Bool
  | .unreadable => false
  | .array items => itemsReadable items
  | .object members => membersReadable members
  | _ => true

def itemsReadable : List Json → Bool
  | [] => true
  | v :: vs => v.isReadable && itemsReadable vs

def membersReadable : List (String × Json) → Bool
  | [] => true
  | (_, v) :: ms => v.isReadable && membersReadable ms

end

/-! ## Readers and writers of simple values -/

def ofBool? : Json → Option Bool
  | .bool b => some b
  | _ => none

def ofString? : Json → Option String
  | .string s => some s
  | _ => none

/-- An integer that a signed 64-bit word holds. -/
def ofInt64? : Json → Option Int64
  | .int n => if Int64.minValue.toInt ≤ n ∧ n ≤ Int64.maxValue.toInt then some (Int64.ofInt n) else none
  | _ => none

/-- An integer that an unsigned 64-bit word holds. -/
def ofWord? : Json → Option Nat
  | .int n => if 0 ≤ n ∧ n < UInt64.size then some n.toNat else none
  | _ => none

/-- An array whose items all read. -/
def ofArray? {α : Type} (item : Json → Option α) : Json → Option (List α)
  | .array items => items.mapM item
  | _ => none

/-- `null`, or a value that reads. -/
def ofNullable? {α : Type} (value : Json → Option α) : Json → Option (Option α)
  | .null => some none
  | v => (value v).map some

/-- The name of an enumeration's value: a string, or an object that gives the name a `null`. -/
def ofName? : Json → Option String
  | .string s => some s
  | .object [(s, .null)] => some s
  | _ => none

/-- A value that may be missing, written as `null` then. -/
def nullable {α : Type} (value : α → Json) : Option α → Json
  | none => .null
  | some a => value a

/-- A member that is left out when there is no value. -/
def optionalMember {α : Type} (name : String) (value : α → Json) : Option α → List (String × Json)
  | none => []
  | some a => [(name, value a)]

def ofInt64 (n : Int64) : Json := .int n.toInt

def ofNat (n : Nat) : Json := .int n

@[simp] theorem ofInt64?_ofInt64 (n : Int64) : ofInt64? (ofInt64 n) = some n := by
  have hlo : Int64.minValue.toInt ≤ n.toInt := Int64.le_toInt n
  have hhi : n.toInt ≤ Int64.maxValue.toInt := Int.le_of_lt_add_one (Int64.toInt_lt n)
  rw [ofInt64, ofInt64?, if_pos ⟨hlo, hhi⟩, Int64.ofInt_toInt]

theorem ofWord?_ofNat {n : Nat} (hn : n < UInt64.size) : ofWord? (ofNat n) = some n := by
  rw [ofNat, ofWord?, if_pos ⟨Int.natCast_nonneg n, Int.ofNat_lt.2 hn⟩, Int.toNat_natCast]

end Json

end DefectTrail
