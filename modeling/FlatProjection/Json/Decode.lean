import FlatProjection.Json.Value
import FlatProjection.Json.Writer
/-
Decoding JSON documents into typed values.
-/

namespace FlatProjection.Json

open Number

/-- Why a document does not decode. -/
inductive DecodeError where
  | missingField (name : String)
  | message (text : String)
deriving DecidableEq, Inhabited

/-- The text of a decoding failure. -/
def DecodeError.text : DecodeError → String
  | .missingField name => s!"missing field `{name}`"
  | .message text => text

/-- A decoder of documents into values of `α`. -/
abbrev Decoder (α : Type) := Json → Except DecodeError α

/-- Plain decimal text of a binary64 value, never with an exponent, with `.0` added when the
text has no point. -/
def pointedFloatText (x : Binary64) : String :=
  let plain := x.shortest.render ⟨none, false, false⟩
  if plain.contains '.' then plain else plain ++ ".0"

/-- A string quoted with its quotes, backslashes and control characters escaped. -/
def debugQuote (s : String) : String :=
  let escape (c : Char) : String :=
    if c == '"' then "\\\"" else if c == '\\' then "\\\\"
    else if c == '\n' then "\\n" else if c == '\r' then "\\r" else if c == '\t' then "\\t"
    else if c == '\x00' then "\\0"
    else if c.toNat < 0x20 || (0x7F ≤ c.toNat && c.toNat < 0xA0) then
      "\\u\x7b" ++ String.ofList (Nat.toDigits 16 c.toNat) ++ "\x7d"
    else String.singleton c
  "\"" ++ String.join (s.toList.map escape) ++ "\""

/-- How a found document is named in a type mismatch. -/
def describe : Json → String
  | .null => "null"
  | .bool b => s!"boolean `{b}`"
  | .int n => s!"integer `{n}`"
  | .float x => s!"floating point `{pointedFloatText x}`"
  | .str s => "string " ++ debugQuote s
  | .arr _ => "sequence"
  | .obj _ => "map"

/-- A document of the wrong kind. -/
def invalidType (found expected : String) : DecodeError :=
  .message s!"invalid type: {found}, expected {expected}"

/-- A document of the right kind with a value out of range. -/
def invalidValue (found expected : String) : DecodeError :=
  .message s!"invalid value: {found}, expected {expected}"

/-- A sequence of the wrong length. -/
def invalidLength (length : Nat) (expected : String) : DecodeError :=
  .message s!"invalid length {length}, expected {expected}"

/-- The names of the variants, as a mismatch lists them. -/
def oneOf : List String → String
  | [] => "there are no variants"
  | [a] => s!"`{a}`"
  | [a, b] => s!"`{a}` or `{b}`"
  | names => "one of " ++ ", ".intercalate (names.map fun n => s!"`{n}`")

/-- A tag that names no variant. -/
def unknownVariant (name : String) (variants : List String) : DecodeError :=
  .message s!"unknown variant `{name}`, expected {oneOf variants}"

namespace Decoder

/-- A string. -/
def string : Decoder String
  | .str s => .ok s
  | other => .error (invalidType (describe other) "a string")

/-- A boolean. -/
def bool : Decoder Bool
  | .bool b => .ok b
  | other => .error (invalidType (describe other) "a boolean")

/-- An integer in `[lo, hi)`, named `name` in failures. -/
def intBetween (name : String) (lo hi : Int) : Decoder Int
  | .int n => if lo ≤ n && n < hi then .ok n else .error (invalidValue s!"integer `{n}`" name)
  | other => .error (invalidType (describe other) name)

/-- A signed 64-bit integer. -/
def int64 : Decoder Int := intBetween "i64" (-(Nat.pow 2 63)) (Nat.pow 2 63)

/-- An unsigned 32-bit integer. -/
def uint32 : Decoder Nat := fun doc => (intBetween "u32" 0 (Nat.pow 2 32) doc).map Int.toNat

/-- An unsigned machine-word index. -/
def index : Decoder Nat := fun doc => (intBetween "usize" 0 (Nat.pow 2 64) doc).map Int.toNat

/-- A binary64 number; integers are taken to the nearest value. -/
def float : Decoder Binary64
  | .float x => .ok x
  | .int n => .ok (Binary64.ofInt n)
  | other => .error (invalidType (describe other) "f64")

/-- An array whose items all decode. -/
def list {α : Type} (item : Decoder α) : Decoder (List α)
  | .arr items => items.mapM item
  | other => .error (invalidType (describe other) "a sequence")

/-- `null`, or a value. -/
def option {α : Type} (inner : Decoder α) : Decoder (Option α)
  | .null => .ok none
  | other => (inner other).map some

end Decoder

/-- A member of a structure as read from an object: absent, or the outcome of decoding it. -/
abbrev FieldRead (α : Type) := Option (Except DecodeError α)

/-- Reads the member `key` with `decoder`. -/
def readField {α : Type} (members : List (String × Json)) (key : String) (decoder : Decoder α) :
    FieldRead α :=
  (members.find? (·.1 == key)).map fun member => decoder member.2

/-- The failure of a read member, if it failed. -/
def FieldRead.failure? {α : Type} : FieldRead α → Option DecodeError
  | some (.error e) => some e
  | _ => none

/-- The value of a required member. -/
def FieldRead.need {α : Type} (key : String) : FieldRead α → Except DecodeError α
  | none => .error (.missingField key)
  | some outcome => outcome

/-- The value of a member that may be absent, which reads as `none`. -/
def FieldRead.orNone {α : Type} : FieldRead (Option α) → Except DecodeError (Option α)
  | none => .ok none
  | some outcome => outcome

/-- The value of a member that may be absent, which reads as `fallback`. -/
def FieldRead.orElse {α : Type} (fallback : α) : FieldRead α → Except DecodeError α
  | none => .ok fallback
  | some outcome => outcome

/-- Fails with the failure of the first member, in written order, whose decoding failed. -/
def firstFailure (members : List (String × Json)) (failures : List (String × Option DecodeError)) :
    Except DecodeError Unit :=
  match members.findSome? (fun member => (failures.find? (·.1 == member.1)).bind (·.2)) with
  | some e => .error e
  | none => .ok ()

/-- A structure named `typeName` with the given fields, from an object (built by `build`
from its members) or from an array holding the fields in order. -/
def decodeStructure {α : Type} (typeName : String) (fields : List String)
    (build : List (String × Json) → Except DecodeError α) : Decoder α
  | .obj members => build members
  | .arr items =>
    match build (fields.zip items) with
    | .error (.message m) => .error (.message m)
    | result =>
      if items.length < fields.length then
        .error (invalidLength items.length s!"struct {typeName} with {fields.length} elements")
      else if fields.length < items.length then
        .error (invalidLength items.length "fewer elements in array")
      else result
  | other => .error (invalidType (describe other) s!"struct {typeName}")

/-- The tag and content of an enumeration value. -/
def variantOf (doc : Json) : Except DecodeError (String × Option Json) :=
  match doc with
  | .str name => .ok (name, none)
  | .obj [(name, content)] => .ok (name, some content)
  | .obj _ => .error (invalidValue "map" "map with a single key")
  | other => .error (invalidType (describe other) "string or map")

/-- The content of a variant without data: nothing, or `null`. -/
def unitContent : Option Json → Except DecodeError Unit
  | none => .ok ()
  | some .null => .ok ()
  | some other => .error (invalidType (describe other) "unit")

/-- The content of a variant that wraps one value. -/
def newtypeContent {α : Type} (decoder : Decoder α) : Option Json → Except DecodeError α
  | none => .error (invalidType "unit variant" "newtype variant")
  | some content => decoder content

/-- The content of a variant with named fields: an object only. -/
def structContent {α : Type} (build : List (String × Json) → Except DecodeError α) :
    Option Json → Except DecodeError α
  | none => .error (invalidType "unit variant" "struct variant")
  | some (.obj members) => build members
  | some other => .error (invalidType (describe other) "struct variant")

end FlatProjection.Json
