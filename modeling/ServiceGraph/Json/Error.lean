import ServiceGraph.Json.Number
import ServiceGraph.Json.Hidden

/-!
# Why JSON could not be read or decoded

A reading or decoding failure is a `Problem` with, for failures met while reading text, the
`Position` where it was noticed. `Error.message` writes it: the problem's sentence, then
` at line L column C` when there is a position. Lines count from 1 and columns count bytes of the
line's UTF-8 text from 0.
-/

namespace ServiceGraph.Json

/-- A place in a text. -/
structure Position where
  line : Nat
  column : Nat
  deriving DecidableEq

/-- What is wrong with the text itself. -/
inductive TextFault where
  | eofInList
  | eofInObject
  | eofInString
  | eofInValue
  | expectedColon
  | expectedListCommaOrEnd
  | expectedObjectCommaOrEnd
  | expectedIdent
  | expectedValue
  | invalidEscape
  | invalidNumber
  | numberOutOfRange
  | controlCharacter
  | keyMustBeString
  | loneLeadingSurrogate
  | trailingComma
  | trailingCharacters
  | unexpectedEndOfHexEscape
  | recursionLimit
  deriving DecidableEq

/-- The sentence for each fault of the text. -/
def TextFault.message : TextFault → String
  | .eofInList => "EOF while parsing a list"
  | .eofInObject => "EOF while parsing an object"
  | .eofInString => "EOF while parsing a string"
  | .eofInValue => "EOF while parsing a value"
  | .expectedColon => "expected `:`"
  | .expectedListCommaOrEnd => "expected `,` or `]`"
  | .expectedObjectCommaOrEnd => "expected `,` or `\x7d`"
  | .expectedIdent => "expected ident"
  | .expectedValue => "expected value"
  | .invalidEscape => "invalid escape"
  | .invalidNumber => "invalid number"
  | .numberOutOfRange => "number out of range"
  | .controlCharacter => "control character (\\u0000-\\u001F) found while parsing a string"
  | .keyMustBeString => "key must be a string"
  | .loneLeadingSurrogate => "lone leading surrogate in hex escape"
  | .trailingComma => "trailing comma"
  | .trailingCharacters => "trailing characters"
  | .unexpectedEndOfHexEscape => "unexpected end of hex escape"
  | .recursionLimit => "recursion limit exceeded"

/-- What a decoder found where it expected something else. -/
inductive Unexpected where
  | bool (b : Bool)
  | unsigned (n : Nat)
  | signed (n : Int)
  | float (bits : UInt64)
  | str (s : String)
  | null
  | sequence
  | map
  deriving DecidableEq

/-- Whether a character is shown as itself inside a quoted debug string: it is not hidden
(`isHidden`). -/
def showsAsItself (c : Char) : Bool := !isHidden c

/-- Lower-case hexadecimal digits of a number, without leading zeros. -/
def hexDigits (n : Nat) : String :=
  String.ofList (Nat.toDigits 16 n)

/-- A string in double quotes as a debugging view writes it: quote, backslash, tab, carriage
return, line feed and NUL by a backslash letter, other hidden characters as `\u{hex}`. -/
def debugQuote (s : String) : String :=
  let escape : Char → String := fun c =>
    if c = '"' then "\\\""
    else if c = '\\' then "\\\\"
    else if c = '\t' then "\\t"
    else if c = '\r' then "\\r"
    else if c = '\n' then "\\n"
    else if c = '\x00' then "\\0"
    else if showsAsItself c then String.singleton c
    else "\\u" ++ "\x7b" ++ hexDigits c.toNat ++ "\x7d"
  "\"" ++ String.join (s.toList.map escape) ++ "\""

/-- The words for what was found. -/
def Unexpected.describe : Unexpected → String
  | .bool b => "boolean `" ++ toString b ++ "`"
  | .unsigned n => "integer `" ++ toString n ++ "`"
  | .signed n => "integer `" ++ toString n ++ "`"
  | .float bits => "floating point `" ++ floatLayout.render bits ++ "`"
  | .str s => "string " ++ debugQuote s
  | .null => "null"
  | .sequence => "sequence"
  | .map => "map"

/-- What a value looks like to a decoder. -/
def Value.unexpected : Value → Unexpected
  | .null => .null
  | .bool b => .bool b
  | .num (.nat n) => .unsigned n
  | .num (.neg n) => .signed n
  | .num (.float bits) => .float bits
  | .str s => .str s
  | .arr _ => .sequence
  | .obj _ => .map

/-- Why reading or decoding failed. -/
inductive Problem where
  | text (fault : TextFault)
  /-- A value of the wrong kind, and the words for the kind that was expected. -/
  | invalidType (found : Unexpected) (expected : String)
  /-- A sequence of the wrong length. -/
  | invalidLength (length : Nat) (expected : String)
  | duplicateField (name : String)
  | missingField (name : String)
  deriving DecidableEq

/-- The sentence for a problem. -/
def Problem.message : Problem → String
  | .text fault => fault.message
  | .invalidType found expected => "invalid type: " ++ found.describe ++ ", expected " ++ expected
  | .invalidLength n expected => "invalid length " ++ toString n ++ ", expected " ++ expected
  | .duplicateField name => "duplicate field `" ++ name ++ "`"
  | .missingField name => "missing field `" ++ name ++ "`"

/-- A failure, with the place in the text when it was met while reading text. -/
structure Error where
  problem : Problem
  position : Option Position := none
  deriving DecidableEq

/-- The sentence for a failure, with its place. -/
def Error.message (e : Error) : String :=
  match e.position with
  | some p => e.problem.message ++ " at line " ++ toString p.line ++ " column " ++ toString p.column
  | none => e.problem.message

end ServiceGraph.Json
