import ServiceGraph.Json.Error

/-!
# Decoding JSON values into typed data

A `Decoder` reads a typed value out of a JSON value, or names what it found instead of what it
expected (`Problem.invalidType`). Lists are read item by item and stop at the first item that
fails. A `Record` is read from an object field by field in the object's order, unknown fields
skipped and absent fields left at their defaults, or from an array whose items stand for the
fields in declaration order; an array with more items than the record has fields is refused
after its fields are read.
-/

namespace ServiceGraph.Json

/-- Reads a typed value out of a JSON value. -/
abbrev Decoder (α : Type) := Value → Except Problem α

namespace Decoder

/-- A string. -/
def string : Decoder String
  | .str s => .ok s
  | v => .error (.invalidType v.unexpected "a string")

/-- An array, each item read by `d`. -/
def list {α : Type} (d : Decoder α) : Decoder (List α)
  | .arr items => items.mapM d
  | v => .error (.invalidType v.unexpected "a sequence")

/-- `null` read as `default`, anything else by `d`. -/
def orDefault {α : Type} (d : Decoder α) (default : α) : Decoder α
  | .null => .ok default
  | v => d v

/-- `null` read as absent, anything else by `d`. -/
def option {α : Type} (d : Decoder α) : Decoder (Option α)
  | .null => .ok none
  | v => some <$> d v

/-- An object with values of any kind, as its fields. -/
def fields : Decoder Fields
  | .obj fs => .ok fs
  | v => .error (.invalidType v.unexpected "a map")

end Decoder

/-- How a record is read: its name, its field names in declaration order, the record with every
field at its default, and how the value of a field updates the record (unknown names leave it
as it is). -/
structure Record (α : Type) where
  name : String
  fieldNames : List String
  empty : α
  update : α → String → Value → Except Problem α

/-- Reads a record from an object or an array. -/
def Record.decode {α : Type} (r : Record α) : Decoder α
  | .obj fs => fs.foldlM (fun acc kv => r.update acc kv.1 kv.2) r.empty
  | .arr items => do
    let acc ← (r.fieldNames.zip items).foldlM (fun acc kv => r.update acc kv.1 kv.2) r.empty
    if items.length > r.fieldNames.length then
      throw (.invalidLength items.length "fewer elements in array")
    return acc
  | v => .error (.invalidType v.unexpected ("struct " ++ r.name))

end ServiceGraph.Json
