import ServiceGraph.Json.Number

/-!
# Writing JSON text

A value is written in one of two layouts (`Layout`): compact, with no blank anywhere, or pretty,
with each array item and object field on a line of its own, indented two spaces a level, and
`": "` between a key and its value. Empty arrays and objects are `[]` and `{}` in both. Fields are
written in the order the object lists them.

In a string, the quote, the backslash and the control characters are escaped: backspace, tab, line
feed, form feed and carriage return by a letter, the other controls as `\u00xx` in lower-case
hexadecimal; every other character is written as itself.
-/

namespace ServiceGraph.Json

/-- The four hexadecimal digits of a code unit below `0x10000`, in lower case. -/
def hex4 (n : Nat) : String :=
  let digit : Nat → Char := fun d => if d < 10 then Char.ofNat (48 + d) else Char.ofNat (87 + d)
  String.ofList [digit (n / 4096 % 16), digit (n / 256 % 16), digit (n / 16 % 16), digit (n % 16)]

/-- The escaped form of one character inside a JSON string. -/
def escapeChar (c : Char) : String :=
  if c = '"' then "\\\""
  else if c = '\\' then "\\\\"
  else if c = '\x08' then "\\b"
  else if c = '\t' then "\\t"
  else if c = '\n' then "\\n"
  else if c = '\x0c' then "\\f"
  else if c = '\r' then "\\r"
  else if c.toNat < 0x20 then "\\u" ++ hex4 c.toNat
  else String.singleton c

/-- A string as a JSON string literal. -/
def quote (s : String) : String :=
  "\"" ++ String.join (s.toList.map escapeChar) ++ "\""

/-- Where blanks go in written JSON. -/
inductive Layout where
  | compact
  /-- One item a line, each level indented by two spaces. -/
  | pretty
  deriving DecidableEq

/-- The break before an item at nesting `level`. -/
def Layout.lineBreak : Layout → Nat → String
  | .compact, _ => ""
  | .pretty, level => "\n" ++ String.ofList (List.replicate (2 * level) ' ')

/-- What stands between a key and its value. -/
def Layout.colon : Layout → String
  | .compact => ":"
  | .pretty => ": "

mutual

/-- The text of a value whose first line sits at nesting `level`. -/
def Value.render (layout : Layout) (level : Nat) : Value → String
  | .null => "null"
  | .bool true => "true"
  | .bool false => "false"
  | .num n => n.render
  | .str s => quote s
  | .arr [] => "[]"
  | .arr (v :: vs) =>
    "[" ++ layout.lineBreak (level + 1) ++ Value.render layout (level + 1) v ++
      renderItems layout (level + 1) vs ++ layout.lineBreak level ++ "]"
  | .obj [] => "\x7b\x7d"
  | .obj ((k, v) :: fs) =>
    "\x7b" ++ layout.lineBreak (level + 1) ++ quote k ++ layout.colon ++
      Value.render layout (level + 1) v ++ renderFields layout (level + 1) fs ++
      layout.lineBreak level ++ "\x7d"

/-- Array items after the first, each after a comma. -/
def renderItems (layout : Layout) (level : Nat) : List Value → String
  | [] => ""
  | v :: vs => "," ++ layout.lineBreak level ++ Value.render layout level v ++
    renderItems layout level vs

/-- Object fields after the first, each after a comma. -/
def renderFields (layout : Layout) (level : Nat) : List (String × Value) → String
  | [] => ""
  | (k, v) :: fs => "," ++ layout.lineBreak level ++ quote k ++ layout.colon ++
    Value.render layout level v ++ renderFields layout level fs

end

/-- The compact text of a value. -/
def Value.compact (v : Value) : String := v.render .compact 0

/-- The pretty text of a value. -/
def Value.pretty (v : Value) : String := v.render .pretty 0

end ServiceGraph.Json
