/-!
# JSON values

A JSON number keeps the kind it was read as: an integer that fits 64 unsigned bits (`nat`), a
negative integer that fits 64 signed bits (`neg`), and any other number as a binary64 pattern
(`float`). An object is the list of its fields in their order; the reader keeps that list sorted by
key with no key twice (`Fields.insert`), so reading and then visiting an object goes by ascending
key, while objects built by this library keep the order they are built in.
-/

namespace ServiceGraph.Json

/-- A JSON number, by the kind it was read as. -/
inductive Number where
  /-- A non-negative integer below `2 ^ 64`. -/
  | nat (n : Nat)
  /-- A negative integer not below `-2 ^ 63`. -/
  | neg (n : Int)
  /-- Any other number, as its binary64 pattern. -/
  | float (bits : UInt64)
  deriving DecidableEq

/-- A JSON value. -/
inductive Value where
  | null
  | bool (b : Bool)
  | num (n : Number)
  | str (s : String)
  | arr (items : List Value)
  | obj (fields : List (String × Value))

/-- The fields of an object, in order. -/
abbrev Fields := List (String × Value)

namespace Fields

/-- The value of the first field named `key`. -/
def get? (fields : Fields) (key : String) : Option Value :=
  (fields.find? (·.1 == key)).map (·.2)

/-- Adds a field to a key-sorted list: a field of the same key is replaced in place, otherwise the
field goes before the first greater key. -/
def insert (fields : Fields) (key : String) (v : Value) : Fields :=
  match fields with
  | [] => [(key, v)]
  | (k, w) :: rest =>
    if key < k then (key, v) :: (k, w) :: rest
    else if key = k then (key, v) :: rest
    else (k, w) :: insert rest key v

end Fields

namespace Value

/-- The field `key` of an object; `none` for a missing field or a value that is no object. -/
def field? : Value → String → Option Value
  | .obj fields, key => Fields.get? fields key
  | _, _ => none

/-- The text of a string value. -/
def str? : Value → Option String
  | .str s => some s
  | _ => none

/-- The items of an array value. -/
def arr? : Value → Option (List Value)
  | .arr items => some items
  | _ => none

/-- The fields of an object value. -/
def obj? : Value → Option Fields
  | .obj fields => some fields
  | _ => none

/-- A natural number as a JSON integer. -/
def ofNat (n : Nat) : Value := .num (.nat n)

/-- A string list as a JSON array. -/
def ofStrings (xs : List String) : Value := .arr (xs.map .str)

/-- An optional string, `null` when absent. -/
def ofOption : Option String → Value
  | some s => .str s
  | none => .null

end Value

mutual

/-- The value with the fields of each of its objects sorted by key, as a map keyed by strings
holds them. -/
def Value.sortKeys : Value → Value
  | .arr items => .arr (sortKeysItems items)
  | .obj fields => .obj ((sortKeysFields fields).mergeSort fun a b => decide (a.1 ≤ b.1))
  | v => v

/-- `Value.sortKeys` on each item. -/
def sortKeysItems : List Value → List Value
  | [] => []
  | v :: vs => Value.sortKeys v :: sortKeysItems vs

/-- `Value.sortKeys` on each field's value. -/
def sortKeysFields : List (String × Value) → List (String × Value)
  | [] => []
  | (k, v) :: fs => (k, Value.sortKeys v) :: sortKeysFields fs

end

end ServiceGraph.Json
