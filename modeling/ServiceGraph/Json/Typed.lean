import ServiceGraph.Json.Reader

/-!
# Reading typed values straight from text

A record can be read from JSON text without building a `Value` first, each field by a reader of
its own type. What such a reader reports differs from reading a `Value` and decoding it, and the
readers here follow those rules:

- a reader that meets a value of another kind reads that whole value, to say what it was, and
  fails with `invalidType` placed just after it (`mismatch`);
- a record may be written as an object, whose unknown fields are stepped over and whose repeated
  field is an error, or as an array of its fields in order, shorter arrays leaving the remaining
  fields as they are in `TextRecord.empty` (`readRecord`);
- an array with more items than the reader takes fails with trailing characters.

A repeated field is reported after the reader has looked for the closing brace, and just past it
when it is there.
-/

namespace ServiceGraph.Json.Scan

/-- Reads the next value only to say what kind of value it is. -/
def unexpectedNext : Scan Unexpected := do
  match ← peek with
  | some 'n' => bump; expectWord ['u', 'l', 'l']; pure .null
  | some 't' => bump; expectWord ['r', 'u', 'e']; pure (.bool true)
  | some 'f' => bump; expectWord ['a', 'l', 's', 'e']; pure (.bool false)
  | some '-' => bump; pure (Value.unexpected (.num (← number false)))
  | some '"' => bump; pure (.str (← string))
  | some '[' => pure .sequence
  | some '{' => pure .map
  | some c =>
    if isDigit c then pure (Value.unexpected (.num (← number true)))
    else failAhead .expectedValue
  | none => failAhead .expectedValue

/-- Fails because the next value is not of the kind `expected` names; the value is read to say
what it is. -/
def mismatch {α : Type} (expected : String) : Scan α := do
  let found ← unexpectedNext
  throw ⟨.invalidType found expected, some (← get).here⟩

/-- Reads a string; `expected` names it in a failure. -/
def readString (expected : String) : Scan String := do
  match ← nextToken with
  | none => failAhead .eofInValue
  | some '"' => bump; string
  | some _ => mismatch expected

/-- Reads a boolean. -/
def readBool : Scan Bool := do
  match ← nextToken with
  | none => failAhead .eofInValue
  | some 't' => bump; expectWord ['r', 'u', 'e']; pure true
  | some 'f' => bump; expectWord ['a', 'l', 's', 'e']; pure false
  | some _ => mismatch "a boolean"

/-- Reads `null` as nothing, and anything else with `read`. -/
def readOption {α : Type} (read : Scan α) : Scan (Option α) := do
  match ← nextToken with
  | some 'n' => bump; expectWord ['u', 'l', 'l']; pure none
  | _ => some <$> read

/-- Moves to the next item of an array: `false` at its closing bracket, which is not stepped
over. -/
def nextItem (first : Bool) : Scan Bool := do
  match ← nextToken with
  | some ']' => pure false
  | some ',' =>
    if first then pure true
    else
      bump
      match ← nextToken with
      | some ']' => failAhead .trailingComma
      | some _ => pure true
      | none => failAhead .eofInValue
  | some _ => if first then pure true else failAhead .expectedListCommaOrEnd
  | none => failAhead .eofInList

/-- Steps over the closing bracket of an array whose items were all read. -/
def endList : Scan Unit := do
  match ← nextToken with
  | some ']' => bump
  | some ',' =>
    bump
    match ← nextToken with
    | some ']' => failAhead .trailingComma
    | _ => failAhead .trailingCharacters
  | some _ => failAhead .trailingCharacters
  | none => failAhead .eofInList

/-- Reads the items of an array up to its closing bracket; `fuel` bounds their number. -/
def readItems {α : Type} (read : Scan α) : Nat → Bool → List α → Scan (List α)
  | 0, _, acc => pure acc.reverse
  | fuel + 1, first, acc => do
    if ← nextItem first then
      let x ← read
      readItems read fuel false (x :: acc)
    else pure acc.reverse

/-- Reads an array, each item with `read`. -/
def readList {α : Type} (read : Scan α) : Scan (List α) := do
  match ← nextToken with
  | none => failAhead .eofInValue
  | some '[' =>
    bump
    let items ← readItems read (← fuel) true []
    endList
    pure items
  | some _ => mismatch "a sequence"

/-- Moves to the next key of an object and reads it: none at its closing brace, which is not
stepped over. -/
def nextKey (first : Bool) : Scan (Option String) := do
  match ← nextToken with
  | some '}' => pure none
  | some ',' =>
    if first then failAhead .keyMustBeString
    else
      bump
      match ← nextToken with
      | some '"' => bump; some <$> string
      | some '}' => failAhead .trailingComma
      | some _ => failAhead .keyMustBeString
      | none => failAhead .eofInValue
  | some '"' => if first then do bump; some <$> string else failAhead .expectedObjectCommaOrEnd
  | some _ => if first then failAhead .keyMustBeString else failAhead .expectedObjectCommaOrEnd
  | none => failAhead .eofInObject

/-- Steps over the colon after a key. -/
def colon : Scan Unit := do
  match ← nextToken with
  | some ':' => bump
  | some _ => failAhead .expectedColon
  | none => failAhead .eofInObject

/-- Steps over the closing brace of an object whose fields were all read. -/
def endObject : Scan Unit := do
  match ← nextToken with
  | some '}' => bump
  | some ',' => failAhead .trailingComma
  | some _ => failAhead .trailingCharacters
  | none => failAhead .eofInObject

end Scan

open Scan

/-- A record read from text field by field. -/
structure TextRecord (α : Type) where
  /-- Its name, for failures. -/
  name : String
  /-- Its fields, in order. -/
  fields : List String
  /-- The record before any field is read; fields not given keep these values. -/
  empty : α
  /-- Reads the field at a place in `fields` into the record. -/
  readField : Nat → α → Scan α

namespace TextRecord

variable {α : Type} (r : TextRecord α)

/-- Reads the fields given as array items, in order. -/
def items : List Nat → Bool → α → Scan α
  | [], _, acc => pure acc
  | i :: is, first, acc => do
    if ← nextItem first then
      let acc ← r.readField i acc
      items is false acc
    else pure acc

/-- Reads the members of an object up to its closing brace; a repeated field ends reading with
its name. `fuel` bounds the number of members. -/
def members : Nat → Bool → List Nat → α → Scan (Except String α)
  | 0, _, _, acc => pure (.ok acc)
  | fuel + 1, first, seen, acc => do
    match ← nextKey first with
    | none => pure (.ok acc)
    | some key =>
      match r.fields.idxOf? key with
      | some i =>
        if seen.contains i then pure (.error key)
        else
          colon
          let acc ← r.readField i acc
          members fuel false (i :: seen) acc
      | none =>
        colon
        skipValue (← Scan.fuel)
        members fuel false seen acc

/-- Reads the record, as an object or as an array of its fields. -/
def read : Scan α := do
  match ← nextToken with
  | none => failAhead .eofInValue
  | some '[' =>
    bump
    let v ← r.items (List.range r.fields.length) true r.empty
    endList
    pure v
  | some '{' =>
    bump
    match ← r.members (← Scan.fuel) true [] r.empty with
    | .ok v =>
      endObject
      pure v
    | .error key =>
      if (← nextToken) == some '}' then bump
      throw ⟨.duplicateField key, some (← get).here⟩
  | some _ => mismatch ("struct " ++ r.name)

/-- Reads a whole text as the record. -/
def readText (text : String) : Except Error α :=
  (do
    let v ← r.read
    finish
    pure v : Scan α).run' (Cursor.ofString text)

end TextRecord

end ServiceGraph.Json
