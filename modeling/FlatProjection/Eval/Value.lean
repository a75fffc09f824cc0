import FlatProjection.Expr.Basic
import FlatProjection.Json.Value
import FlatProjection.Number.Nearest
/-
Runtime values of projection programs; floats compare by value, so NaN equals nothing.
-/

namespace FlatProjection.Eval

open Number

/-- A runtime value. -/
inductive Value where
  | null
  | int (n : Int)
  | float (x : Binary64)
  | bool (b : Bool)
  | text (s : String)
  | record (typeName : Option String) (fields : List (String × Value))
  | tuple (items : List Value)
  | list (items : List Value)
  | set (items : List Value)
  | group (key : Value) (values : List Value)
deriving Inhabited

namespace Value

mutual

/-- Equality of values: kinds must match, floats compare by value. -/
def beq : Value → Value → Bool
  | .null, .null => true
  | .int a, .int b => a == b
  | .float a, .float b => a.sameValue b
  | .bool a, .bool b => a == b
  | .text a, .text b => a == b
  | .record n1 f1, .record n2 f2 => n1 == n2 && fieldsBeq f1 f2
  | .tuple a, .tuple b => itemsBeq a b
  | .list a, .list b => itemsBeq a b
  | .set a, .set b => itemsBeq a b
  | .group k1 v1, .group k2 v2 => beq k1 k2 && itemsBeq v1 v2
  | _, _ => false

/-- Equality of value lists, item by item. -/
def itemsBeq : List Value → List Value → Bool
  | [], [] => true
  | a :: as, b :: bs => beq a b && itemsBeq as bs
  | _, _ => false

/-- Equality of record fields, in order. -/
def fieldsBeq : List (String × Value) → List (String × Value) → Bool
  | [], [] => true
  | (n1, a) :: as, (n2, b) :: bs => n1 == n2 && beq a b && fieldsBeq as bs
  | _, _ => false

end

instance : BEq Value := ⟨beq⟩

/-- A set of the given items: duplicates dropped, first occurrences kept in order. -/
def setOf (items : List Value) : Value :=
  .set (items.foldl (fun distinct item => if distinct.any (· == item) then distinct else distinct ++ [item]) [])

/-- The value of a record field. -/
def field? (v : Value) (name : String) : Option Value :=
  match v with
  | .record _ fields => (fields.find? (·.1 == name)).map (·.2)
  | _ => none

/-- The name of a value's kind. -/
def kindName : Value → String
  | .null => "null"
  | .int _ => "int"
  | .float _ => "float"
  | .bool _ => "bool"
  | .text _ => "text"
  | .record .. => "record"
  | .tuple _ => "tuple"
  | .list _ => "list"
  | .set _ => "set"
  | .group .. => "group"

mutual

/-- Whether a value may stand for a type; null stands for every type, every value for an object. -/
def conformsTo : Value → ValueType → Bool
  | .null, _ => true
  | _, .object => true
  | .int _, .int | .int _, .float => true
  | .float _, .float => true
  | .bool _, .bool => true
  | .text _, .text => true
  | .record .., .entity _ | .record .., .record .. => true
  | .list _, .collection .. | .list _, .sequence _ => true
  | .set _, .collection .. | .set _, .sequence _ => true
  | .group .., .grouping .. | .group .., .sequence _ => true
  | .tuple items, .tuple tys => itemsConform items tys
  | _, _ => false

/-- Items that conform to types, as many items as types. -/
def itemsConform : List Value → List ValueType → Bool
  | [], [] => true
  | v :: vs, t :: ts => conformsTo v t && itemsConform vs ts
  | _, _ => false

end

mutual

/-- A value as JSON: a non-finite float is null, tuples, lists and sets are arrays, and a
repeated field name keeps its first place and its last value. -/
def toJson : Value → Json
  | .null => .null
  | .int n => .int n
  | .float x => if x.isFinite then .float x else .null
  | .bool b => .bool b
  | .text s => .str s
  | .record _ fields =>
    .obj ((fieldsJson fields).foldl (fun members (name, j) => Json.insert members name j) [])
  | .tuple items | .list items | .set items => .arr (itemsJson items)
  | .group key values => .obj [("key", toJson key), ("values", .arr (itemsJson values))]

/-- Values as JSON. -/
def itemsJson : List Value → List Json
  | [] => []
  | v :: rest => toJson v :: itemsJson rest

/-- Record fields with their values as JSON. -/
def fieldsJson : List (String × Value) → List (String × Json)
  | [] => []
  | (name, v) :: rest => (name, toJson v) :: fieldsJson rest

end

mutual

/-- A JSON document as a value: arrays become lists and objects records without a type
name; integers within 64-bit signed range are integers, other numbers floats. -/
def ofJson : Json → Value
  | .null => .null
  | .bool b => .bool b
  | .int n => if n < Nat.pow 2 63 then .int n else .float (Binary64.ofInt n)
  | .float x => .float x
  | .str s => .text s
  | .arr items => .list (itemsOfJson items)
  | .obj members => .record none (membersOfJson members)

/-- JSON items as values. -/
def itemsOfJson : List Json → List Value
  | [] => []
  | j :: rest => ofJson j :: itemsOfJson rest

/-- JSON members as record fields. -/
def membersOfJson : List (String × Json) → List (String × Value)
  | [] => []
  | (name, j) :: rest => (name, ofJson j) :: membersOfJson rest

end

mutual

/-- A value as JSON that keeps its kind: `{"t": kind, …}` with `v` for scalars and items,
`type` and `fields` (name and value pairs) for records, `key` and `values` for groups. -/
def taggedJson : Value → Json
  | .null => .obj [("t", .str "null")]
  | .int n => .obj [("t", .str "int"), ("v", .int n)]
  | .float x => .obj [("t", .str "float"), ("v", .float x)]
  | .bool b => .obj [("t", .str "bool"), ("v", .bool b)]
  | .text s => .obj [("t", .str "text"), ("v", .str s)]
  | .record name fields => .obj [("t", .str "record"), ("type", (name.map Json.str).getD .null),
      ("fields", .arr (taggedFields fields))]
  | .tuple items => .obj [("t", .str "tuple"), ("v", .arr (taggedItems items))]
  | .list items => .obj [("t", .str "list"), ("v", .arr (taggedItems items))]
  | .set items => .obj [("t", .str "set"), ("v", .arr (taggedItems items))]
  | .group key values => .obj [("t", .str "group"), ("key", taggedJson key),
      ("values", .arr (taggedItems values))]

/-- Values as kind-keeping JSON. -/
def taggedItems : List Value → List Json
  | [] => []
  | v :: rest => taggedJson v :: taggedItems rest

/-- Record fields as name and kind-keeping value pairs. -/
def taggedFields : List (String × Value) → List Json
  | [] => []
  | (name, v) :: rest => .arr [.str name, taggedJson v] :: taggedFields rest

end

/-- The value of a constant. -/
def ofLiteral : Literal → Value
  | .null => .null
  | .int n => .int n
  | .float x => .float x
  | .bool b => .bool b
  | .text s => .text s

end Value

end FlatProjection.Eval
