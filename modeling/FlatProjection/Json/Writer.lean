import FlatProjection.Json.Value
import FlatProjection.Number.Layout
/-
Writing JSON text, compact or indented.
-/

namespace FlatProjection.Json

open Number

/-- Numbers are written with the fewest digits that read back, positionally from 10^-5 up to
below 10^16. -/
def numberStyle : DecimalStyle where
  positional := some (-5, 15)
  pointZero := true
  plusExponent := true

/-- The text of a binary64 number; non-finite values have none and are written as `null`. -/
def floatText (x : Binary64) : String :=
  if x.isFinite then x.shortest.render numberStyle else "null"

/-- Two lowercase hexadecimal digits. -/
def hexByte (n : Nat) : String :=
  let digit (d : Nat) : Char := if d < 10 then Char.ofNat (48 + d) else Char.ofNat (87 + d)
  String.ofList [digit (n / 16 % 16), digit (n % 16)]

/-- The escaped form of one character inside a string. -/
def escapeChar (c : Char) : String :=
  if c == '"' then "\\\""
  else if c == '\\' then "\\\\"
  else if c == '\n' then "\\n"
  else if c == '\r' then "\\r"
  else if c == '\t' then "\\t"
  else if c == '\x08' then "\\b"
  else if c == '\x0c' then "\\f"
  else if c.toNat < 0x20 then "\\u00" ++ hexByte c.toNat
  else String.singleton c

/-- A string literal. -/
def quote (s : String) : String :=
  "\"" ++ String.join (s.toList.map escapeChar) ++ "\""

mutual

/-- The compact text of a document: no blanks at all. -/
def compact : Json → String
  | .null => "null"
  | .bool b => if b then "true" else "false"
  | .int n => toString n
  | .float x => floatText x
  | .str s => quote s
  | .arr items => "[" ++ compactItems items ++ "]"
  | .obj members => "\x7b" ++ compactMembers members ++ "\x7d"

/-- The compact items of an array, comma-separated. -/
def compactItems : List Json → String
  | [] => ""
  | [v] => compact v
  | v :: rest => compact v ++ "," ++ compactItems rest

/-- The compact members of an object, comma-separated. -/
def compactMembers : List (String × Json) → String
  | [] => ""
  | [(k, v)] => quote k ++ ":" ++ compact v
  | (k, v) :: rest => quote k ++ ":" ++ compact v ++ "," ++ compactMembers rest

end

mutual

/-- The indented text of a document at nesting `level`: each item or member on a line of
its own, two spaces deeper than its brackets; empty arrays and objects stay `[]` and `{}`. -/
def pretty (level : Nat) : Json → String
  | .arr [] => "[]"
  | .obj [] => "\x7b\x7d"
  | .arr (v :: rest) =>
    "[\n" ++ prettyItems (level + 1) (v :: rest) ++ "\n" ++ repeatChar ' ' (2 * level) ++ "]"
  | .obj (m :: rest) =>
    "\x7b\n" ++ prettyMembers (level + 1) (m :: rest) ++ "\n" ++ repeatChar ' ' (2 * level) ++
      "\x7d"
  | .null => "null"
  | .bool b => if b then "true" else "false"
  | .int n => toString n
  | .float x => floatText x
  | .str s => quote s

/-- The items of an array, one per line at nesting `level`. -/
def prettyItems (level : Nat) : List Json → String
  | [] => ""
  | [v] => repeatChar ' ' (2 * level) ++ pretty level v
  | v :: rest => repeatChar ' ' (2 * level) ++ pretty level v ++ ",\n" ++ prettyItems level rest

/-- The members of an object, one per line at nesting `level`. -/
def prettyMembers (level : Nat) : List (String × Json) → String
  | [] => ""
  | [(k, v)] => repeatChar ' ' (2 * level) ++ quote k ++ ": " ++ pretty level v
  | (k, v) :: rest =>
    repeatChar ' ' (2 * level) ++ quote k ++ ": " ++ pretty level v ++ ",\n" ++
      prettyMembers level rest

end

end FlatProjection.Json
