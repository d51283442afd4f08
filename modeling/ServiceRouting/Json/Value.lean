import ServiceRouting.Table

/-!
# JSON values

A JSON number is an integer of 64 bits, signed or unsigned, or a binary64 number, which is kept as
its bits. An object lists its members by increasing key, each key once; `Value.ofMembers` builds
one from members in any order, the last of equal keys staying, and `Value.Ordered` says of a whole
value that all its objects are of this form.
-/

namespace ServiceRouting.Json

/-- A JSON number. -/
inductive Number where
  /-- An integer from -2^63 to 2^64 - 1. -/
  | integer (value : Int)
  /-- A binary64 number, by its bits. -/
  | float (bits : UInt64)
deriving DecidableEq

/-- The number as a binary64 number: the nearest one, if it is an integer. -/
def Number.toFloat : Number → Float
  | .integer value =>
    if 0 ≤ value then value.toNat.toUInt64.toFloat else -(value.natAbs.toUInt64.toFloat)
  | .float bits => Float.ofBits bits

/-- A JSON value. -/
inductive Value where
  | null
  | bool (value : Bool)
  | number (value : Number)
  | string (value : String)
  | array (items : List Value)
  | object (members : List (String × Value))

instance : Inhabited Value := ⟨.null⟩

namespace Value

/-- The object with these members: of two with one key the later stays. -/
def ofMembers (members : List (String × Value)) : Value :=
  .object (members.foldl (fun sorted m => insertSorted m.1 m.2 sorted) [])

/-- The integer as a number. -/
def ofInt (value : Int) : Value := .number (.integer value)

/-- A count as a number. -/
def ofNat (value : Nat) : Value := ofInt value

/-- A computed number: one that is not finite has no JSON form but `null`. -/
def ofFloat (value : Float) : Value :=
  if value.isFinite then .number (.float value.toBits) else .null

/-- The value, or `null` in place of none. -/
def ofOption {α : Type} (encode : α → Value) : Option α → Value
  | some a => encode a
  | none => .null

/-- The list as an array. -/
def ofList {α : Type} (encode : α → Value) (items : List α) : Value :=
  .array (items.map encode)

/-- The table as an object. -/
def ofTable {α : Type} (encode : α → Value) (table : Table α) : Value :=
  .object (table.entries.map fun e => (e.1, encode e.2))

/-- The member of an object with this key. -/
def get? (key : String) : Value → Option Value
  | .object members => Table.find? key members
  | _ => none

mutual
/-- Every object in the value lists its members by increasing key. -/
def Ordered : Value → Prop
  | .array items => AllOrdered items
  | .object members => KeysIncrease members ∧ MembersOrdered members
  | _ => True

/-- Every value of a list is ordered. -/
def AllOrdered : List Value → Prop
  | [] => True
  | item :: rest => Ordered item ∧ AllOrdered rest

/-- Every value among members is ordered. -/
def MembersOrdered : List (String × Value) → Prop
  | [] => True
  | (_, value) :: rest => Ordered value ∧ MembersOrdered rest
end

end Value

end ServiceRouting.Json
