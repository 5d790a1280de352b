import ServiceGraph.Json.Error

/-!
# Reading JSON text

A `Cursor` walks the characters of a text and knows its place in bytes, so that a failure can say
where it was noticed. Two places matter: `here`, before the next character, and `ahead`, one byte
further (just past the next character when it is ASCII); the reader reports a failure at the one
the grammar below names. A `Scan` is a step of reading that may fail.

The grammar is JSON's, with these rules on failures and values:

- blanks are space, tab, line feed and carriage return only;
- a number is an integer below `2 ^ 64`, a negative integer not below `-2 ^ 63`, or a float made
  by `fromParts` (an integer with too many digits keeps its first digits and counts the rest as a
  power of ten); `-0` is the float `-0.0`;
- a string may not hold a raw control character, and a `\u` escape of a high surrogate must be
  followed by one of a low surrogate;
- arrays and objects nest at most 127 deep (`Value.read`);
- an object keeps the last value of a repeated key, and its fields come out sorted by key.

`skipValue` reads a value only to step over it: it has no depth limit, does not compute numbers,
and takes `[1,]` as a missing value rather than a trailing comma.
-/

namespace ServiceGraph.Json

/-- A place in a text being read, with the characters still to read. -/
structure Cursor where
  rest : List Char
  /-- Bytes read so far. -/
  index : Nat := 0
  /-- The line being read, from 1. -/
  line : Nat := 1
  /-- The byte index where the line being read starts. -/
  lineStart : Nat := 0

namespace Cursor

/-- A cursor at the start of a text. -/
def ofString (s : String) : Cursor := { rest := s.toList }

/-- The place before the next character. -/
def here (c : Cursor) : Position := ⟨c.line, c.index - c.lineStart⟩

/-- The place one byte past `here`, or `here` at the end of the text. -/
def ahead (c : Cursor) : Position :=
  match c.rest with
  | [] => c.here
  | ch :: _ => if ch = '\n' then ⟨c.line + 1, 0⟩ else ⟨c.line, c.index + 1 - c.lineStart⟩

/-- Steps over the next character. -/
def advance (c : Cursor) : Cursor :=
  match c.rest with
  | [] => c
  | ch :: rest =>
    let index := c.index + ch.utf8Size
    if ch = '\n' then { rest, index, line := c.line + 1, lineStart := index }
    else { c with rest, index }

/-- The place `n` bytes past `here`, which may fall inside a character. -/
def placeAfter (c : Cursor) : Nat → Position
  | 0 => c.here
  | n + 1 =>
    match c.rest with
    | [] => c.here
    | ch :: _ =>
      if n + 1 ≤ ch.utf8Size then
        if ch = '\n' then ⟨c.line + 1, 0⟩ else ⟨c.line, c.index + (n + 1) - c.lineStart⟩
      else c.advance.placeAfter (n + 1 - ch.utf8Size)
termination_by n => n
decreasing_by
  have := Char.utf8Size_pos ch
  omega

/-- The cursor past the whole text. -/
def toEnd (c : Cursor) : Cursor := c.rest.foldl (fun c _ => c.advance) c

/-- The number of bytes still to read. -/
def bytesLeft (c : Cursor) : Nat := (c.rest.map Char.utf8Size).foldr (· + ·) 0

end Cursor

/-- A step of reading: it moves the cursor, or fails. -/
abbrev Scan := StateT Cursor (Except Error)

namespace Scan

/-- The next character, if any. -/
def peek : Scan (Option Char) := do return (← get).rest.head?

/-- Steps over the next character. -/
def bump : Scan Unit := modify Cursor.advance

/-- Fails with a syntax problem at `here`. -/
def failHere {α : Type} (s : TextFault) : Scan α := do
  throw ⟨.text s, some (← get).here⟩

/-- Fails with a syntax problem at `ahead`. -/
def failAhead {α : Type} (s : TextFault) : Scan α := do
  throw ⟨.text s, some (← get).ahead⟩

/-- Steps over blanks; `fuel` bounds the number of characters. -/
def skipBlanks : Nat → Scan Unit
  | 0 => pure ()
  | fuel + 1 => do
    match ← peek with
    | some ' ' | some '\n' | some '\t' | some '\r' => bump; skipBlanks fuel
    | _ => pure ()

/-- Steps over blanks and returns the next character. -/
def nextToken : Scan (Option Char) := do
  skipBlanks ((← get).rest.length + 1)
  peek

/-- Reads the rest of a literal word such as `ull` after `n`. -/
def expectWord : List Char → Scan Unit
  | [] => pure ()
  | w :: ws => do
    match ← peek with
    | none => failHere .eofInValue
    | some c => if c = w then bump; expectWord ws else failAhead .expectedIdent

/-- The value of an ASCII hexadecimal digit. -/
def hexValue (c : Char) : Option Nat :=
  if '0' ≤ c ∧ c ≤ '9' then some (c.toNat - '0'.toNat)
  else if 'a' ≤ c ∧ c ≤ 'f' then some (c.toNat - 'a'.toNat + 10)
  else if 'A' ≤ c ∧ c ≤ 'F' then some (c.toNat - 'A'.toNat + 10)
  else none

/-- Reads the four hexadecimal digits of a `\u` escape. -/
def hexEscape : Scan Nat := do
  let c ← get
  if c.bytesLeft < 4 then
    set c.toEnd
    failHere .eofInString
  else
    match c.rest.take 4 |>.map hexValue with
    | [some a, some b, some d, some e] =>
      bump; bump; bump; bump
      return ((a * 16 + b) * 16 + d) * 16 + e
    | _ => throw ⟨.text .invalidEscape, some (c.placeAfter 4)⟩

/-- Reads what follows `\u`: one code point, or a surrogate pair. -/
def unicodeEscape : Scan Char := do
  let n ← hexEscape
  if 0xDC00 ≤ n ∧ n ≤ 0xDFFF then failHere .loneLeadingSurrogate
  else if n < 0xD800 ∨ n > 0xDBFF then return Char.ofNat n
  else
    match ← peek with
    | none => failHere .eofInString
    | some '\\' =>
      bump
      match ← peek with
      | none => failHere .eofInString
      | some 'u' =>
        bump
        let m ← hexEscape
        if 0xDC00 ≤ m ∧ m ≤ 0xDFFF then
          return Char.ofNat ((((n - 0xD800) <<< 10) ||| (m - 0xDC00)) + 0x10000)
        else failHere .loneLeadingSurrogate
      | some _ => failAhead .unexpectedEndOfHexEscape
    | some _ => failAhead .unexpectedEndOfHexEscape

/-- Reads what follows a backslash in a string. -/
def escape : Scan Char := do
  match ← peek with
  | none => failHere .eofInString
  | some c =>
    match c with
    | '"' => bump; return '"'
    | '\\' => bump; return '\\'
    | '/' => bump; return '/'
    | 'b' => bump; return '\x08'
    | 'f' => bump; return '\x0c'
    | 'n' => bump; return '\n'
    | 'r' => bump; return '\r'
    | 't' => bump; return '\t'
    | 'u' => bump; unicodeEscape
    | _ => failAhead .invalidEscape

/-- Reads the characters of a string up to and past its closing quote. -/
def stringBody : Nat → List Char → Scan String
  | 0, _ => failHere .eofInString
  | fuel + 1, acc => do
    match ← peek with
    | none => failHere .eofInString
    | some '"' => bump; return String.ofList acc.reverse
    | some '\\' => bump; let c ← escape; stringBody fuel (c :: acc)
    | some c =>
      if c.toNat < 0x20 then failAhead .controlCharacter
      else bump; stringBody fuel (c :: acc)

/-- Reads a string whose opening quote has been stepped over. -/
def string : Scan String := do
  stringBody ((← get).rest.length + 1) []

/-- Steps over the characters of a string up to and past its closing quote; a control character
is reported at `here`. -/
def skipStringBody : Nat → Scan Unit
  | 0 => failHere .eofInString
  | fuel + 1 => do
    match ← peek with
    | none => failHere .eofInString
    | some '"' => bump
    | some '\\' =>
      bump
      match ← peek with
      | none => failHere .eofInString
      | some c =>
        if c = 'u' then bump; discard hexEscape; skipStringBody fuel
        else if c = '"' ∨ c = '\\' ∨ c = '/' ∨ c = 'b' ∨ c = 'f' ∨ c = 'n' ∨ c = 'r' ∨ c = 't'
        then bump; skipStringBody fuel
        else failAhead .invalidEscape
    | some c =>
      if c.toNat < 0x20 then failHere .controlCharacter
      else bump; skipStringBody fuel

/-- Steps over a string whose opening quote has been stepped over. -/
def skipString : Scan Unit := do
  skipStringBody ((← get).rest.length + 1)

/-- True for an ASCII digit. -/
def isDigit (c : Char) : Bool := '0' ≤ c && c ≤ '9'

/-- Steps over ASCII digits and returns them. -/
def digits : Scan (List Nat) := do
  let c ← get
  let ds := c.rest.takeWhile isDigit
  set (ds.foldl (fun c _ => c.advance) c)
  return ds.map fun d => d.toNat - '0'.toNat

/-- The largest integer kept exactly while reading digits. -/
def maxSignificand : Nat := Nat.pow 2 64 - 1

/-- Whether `s * 10 + d` passes `maxSignificand`. -/
def overflows (s d : Nat) : Bool :=
  s ≥ maxSignificand / 10 && (s > maxSignificand / 10 || d > maxSignificand % 10)

/-- Signed 32-bit saturation, for exponents. -/
def saturate (e : Int) : Int := max (-2147483648) (min 2147483647 e)

/-- The float for a significand and exponent, refused at `here` when out of range. -/
def float (positive : Bool) (significand : Nat) (exponent : Int) : Scan Number := do
  match fromParts positive significand exponent with
  | some bits => return .float bits
  | none => failHere .numberOutOfRange

/-- Reads exponent digits after the first while the exponent fits 32 signed bits: `none` once
a digit would pass it, with that digit stepped over. -/
def exponentDigits : Nat → Nat → Scan (Option Nat)
  | 0, e => return some e
  | fuel + 1, e => do
    match ← peek with
    | some c =>
      if isDigit c then
        bump
        let d := c.toNat - '0'.toNat
        if e ≥ 214748364 ∧ (e > 214748364 ∨ d > 7) then return none
        else exponentDigits fuel (e * 10 + d)
      else return some e
    | none => return some e

/-- Reads an exponent after `e` or `E` (not yet stepped over). -/
def exponentPart (positive : Bool) (significand : Nat) (start : Int) : Scan Number := do
  bump
  let positiveExp ← do
    match ← peek with
    | some '+' => bump; pure true
    | some '-' => bump; pure false
    | _ => pure true
  match ← peek with
  | none => failHere .eofInValue
  | some c =>
    if !isDigit c then failAhead .invalidNumber
    else
      bump
      match ← exponentDigits ((← get).rest.length + 1) (c.toNat - '0'.toNat) with
      | some e =>
        float positive significand (saturate (if positiveExp then start + e else start - e))
      | none =>
        if significand ≠ 0 ∧ positiveExp then failHere .numberOutOfRange
        else
          discard digits
          return .float (if positive then 0 else Binary64.signBit)

/-- Reads a fraction after `.` (not yet stepped over), then any exponent. -/
def fractionPart (positive : Bool) (significand : Nat) (start : Int) : Scan Number := do
  bump
  let ds ← digits
  if ds.isEmpty then
    match ← peek with
    | some _ => failAhead .invalidNumber
    | none => failHere .eofInValue
  else
    -- digits are kept while the significand stays exact, the others are dropped
    let (s, kept) := ds.foldl (fun (s, kept, full) d =>
      if full || overflows s d then (s, kept, true) else (s * 10 + d, kept + 1, false))
      (significand, 0, false) |> fun (s, k, _) => (s, k)
    let exponent := start - kept
    match ← peek with
    | some 'e' | some 'E' => exponentPart positive s exponent
    | _ => float positive s exponent

/-- Reads what follows the integer digits of a number. -/
def afterInteger (positive : Bool) (significand : Nat) (exponent : Int) (long : Bool) :
    Scan Number := do
  match ← peek with
  | some '.' => fractionPart positive significand exponent
  | some 'e' | some 'E' => exponentPart positive significand exponent
  | _ =>
    if long then float positive significand exponent
    else if positive then return .nat significand
    else if significand = 0 ∨ significand > Nat.pow 2 63 then
      return .float (Binary64.negate (Binary64.ofNat significand))
    else return .neg (-(significand : Int))

/-- Reads a number after its sign. -/
def number (positive : Bool) : Scan Number := do
  match ← peek with
  | none => failHere .eofInValue
  | some c =>
    if c = '0' then
      bump
      match ← peek with
      | some d => if isDigit d then failAhead .invalidNumber else afterInteger positive 0 0 false
      | none => afterInteger positive 0 0 false
    else if isDigit c then
      let ds ← digits
      -- digits are kept while the significand stays exact, the others count as powers of ten
      let (s, dropped) := ds.foldl (fun (s, dropped) d =>
        if dropped > 0 || overflows s d then (s, dropped + 1) else (s * 10 + d, 0)) (0, 0)
      afterInteger positive s dropped (dropped > 0)
    else failAhead .invalidNumber

/-- Steps over a number after its sign, checking only its shape. -/
def skipNumber : Scan Unit := do
  match ← peek with
  | none => failHere .invalidNumber
  | some c =>
    if c = '0' then
      bump
      if (← peek).any isDigit then failAhead .invalidNumber
    else if isDigit c then discard digits
    else failAhead .invalidNumber
  let exponent : Scan Unit := do
    bump
    if (← peek) == some '+' || (← peek) == some '-' then bump
    match ← peek with
    | some d => if isDigit d then discard digits else failAhead .invalidNumber
    | none => failHere .invalidNumber
  match ← peek with
  | some '.' =>
    bump
    let ds ← digits
    if ds.isEmpty then failAhead .invalidNumber
    if (← peek) == some 'e' || (← peek) == some 'E' then exponent
  | some 'e' | some 'E' => exponent
  | _ => pure ()

/-- Reads a value: `depth` is how many more arrays and objects may open, plus one; `fuel` bounds
the steps. -/
def value (depth : Nat) : Nat → Scan Value
  | 0 => failHere .eofInValue
  | fuel + 1 => do
    match ← nextToken with
    | none => failAhead .eofInValue
    | some c =>
      match c with
      | 'n' => bump; expectWord ['u', 'l', 'l']; return .null
      | 't' => bump; expectWord ['r', 'u', 'e']; return .bool true
      | 'f' => bump; expectWord ['a', 'l', 's', 'e']; return .bool false
      | '-' => bump; return .num (← number false)
      | '"' => bump; return .str (← string)
      | '[' =>
        if depth ≤ 1 then failAhead .recursionLimit
        else
          bump
          let items ← elements (depth - 1) fuel true []
          bump
          return .arr items
      | '{' =>
        if depth ≤ 1 then failAhead .recursionLimit
        else
          bump
          let fields ← members (depth - 1) fuel true []
          bump
          return .obj fields
      | _ => if isDigit c then return .num (← number true) else failAhead .expectedValue
where
  /-- Reads the elements of an array up to its closing bracket (not stepped over). -/
  elements (depth : Nat) : Nat → Bool → List Value → Scan (List Value)
    | 0, _, acc => return acc.reverse
    | fuel + 1, first, acc => do
      match ← nextToken with
      | none => failAhead .eofInList
      | some ']' => return acc.reverse
      | some c =>
        if !first then
          if c = ',' then
            bump
            match ← nextToken with
            | some ']' => failAhead .trailingComma
            | some _ => pure ()
            | none => failAhead .eofInValue
          else failAhead .expectedListCommaOrEnd
        let v ← value depth fuel
        elements depth fuel false (v :: acc)
  /-- Reads the fields of an object up to its closing brace (not stepped over). -/
  members (depth : Nat) : Nat → Bool → Fields → Scan Fields
    | 0, _, acc => return acc
    | fuel + 1, first, acc => do
      match ← nextToken with
      | none => failAhead .eofInObject
      | some '}' => return acc
      | some c =>
        if first then
          if c ≠ '"' then failAhead .keyMustBeString
        else if c = ',' then
          bump
          match ← nextToken with
          | some '"' => pure ()
          | some '}' => failAhead .trailingComma
          | some _ => failAhead .keyMustBeString
          | none => failAhead .eofInValue
        else failAhead .expectedObjectCommaOrEnd
        bump
        let key ← string
        match ← nextToken with
        | some ':' => bump
        | some _ => failAhead .expectedColon
        | none => failAhead .eofInObject
        let v ← value depth fuel
        members depth fuel false (Fields.insert acc key v)

/-- Steps over a value; `fuel` bounds the steps. -/
def skipValue : Nat → Scan Unit
  | 0 => failHere .eofInValue
  | fuel + 1 => do
    match ← nextToken with
    | none => failAhead .eofInValue
    | some c =>
      match c with
      | 'n' => bump; expectWord ['u', 'l', 'l']
      | 't' => bump; expectWord ['r', 'u', 'e']
      | 'f' => bump; expectWord ['a', 'l', 's', 'e']
      | '-' => bump; skipNumber
      | '"' => bump; skipString
      | '[' =>
        bump
        match ← nextToken with
        | some ']' => bump
        | some _ => skipElements fuel
        | none => failAhead .eofInList
      | '{' =>
        bump
        match ← nextToken with
        | some '}' => bump
        | some _ => skipMembers fuel
        | none => failAhead .eofInObject
      | _ => if isDigit c then skipNumber else failAhead .expectedValue
where
  /-- Steps over array elements and the closing bracket; one element is due. -/
  skipElements : Nat → Scan Unit
    | 0 => failHere .eofInList
    | fuel + 1 => do
      skipValue fuel
      match ← nextToken with
      | some ',' => bump; skipElements fuel
      | some ']' => bump
      | some _ => failAhead .expectedListCommaOrEnd
      | none => failAhead .eofInList
  /-- Steps over object members and the closing brace; one member is due. -/
  skipMembers : Nat → Scan Unit
    | 0 => failHere .eofInObject
    | fuel + 1 => do
      match ← nextToken with
      | some '"' => bump; skipString
      | some _ => failAhead .keyMustBeString
      | none => failAhead .eofInObject
      match ← nextToken with
      | some ':' => bump
      | some _ => failAhead .expectedColon
      | none => failAhead .eofInObject
      skipValue fuel
      match ← nextToken with
      | some ',' => bump; skipMembers fuel
      | some '}' => bump
      | some _ => failAhead .expectedObjectCommaOrEnd
      | none => failAhead .eofInObject

/-- Fails unless only blanks are left. -/
def finish : Scan Unit := do
  match ← nextToken with
  | some _ => failAhead .trailingCharacters
  | none => pure ()

/-- Steps generous enough for any reading of the rest of the text. -/
def fuel : Scan Nat := do return 2 * (← get).rest.length + 2

end Scan

/-- The deepest nesting a text may have, plus one. -/
def depthLimit : Nat := 128

/-- Reads a whole text as one JSON value. -/
def Value.read (text : String) : Except Error Value :=
  let scan : Scan Value := do
    let v ← Scan.value depthLimit (← Scan.fuel)
    Scan.finish
    return v
  (scan.run' (Cursor.ofString text))

end ServiceGraph.Json
