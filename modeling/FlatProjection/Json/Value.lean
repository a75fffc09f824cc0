import FlatProjection.Number.Binary64
/-
JSON documents with their object members in written order.
-/

namespace FlatProjection

/-- A JSON document. Object members keep their order; `Json.insert` keeps keys unique. -/
inductive Json where
  | null
  | bool (b : Bool)
  | int (n : Int)
  | float (x : Number.Binary64)
  | str (s : String)
  | arr (items : List Json)
  | obj (members : List (String × Json))
deriving Inhabited

namespace Json

/-- Sets `key` to `value` in an object's members: an existing key keeps its position and
takes the new value, a new key goes last. -/
def insert (members : List (String × Json)) (key : String) (value : Json) :
    List (String × Json) :=
  if members.any (·.1 == key) then
    members.map fun member => if member.1 == key then (key, value) else member
  else members ++ [(key, value)]

/-- An object built by inserting the members in order, so a repeated key keeps its first
position and its last value. -/
def objectOf (members : List (String × Json)) : Json :=
  .obj (members.foldl (fun acc member => insert acc member.1 member.2) [])

/-- The value of a member of an object, if the document is an object that has it. -/
def field? (doc : Json) (key : String) : Option Json :=
  match doc with
  | .obj members => (members.find? (·.1 == key)).map (·.2)
  | _ => none

/-- The value of a member, with an absent member and `null` both read as `none`. -/
def optField? (doc : Json) (key : String) : Option Json :=
  match doc.field? key with
  | some .null => none
  | other => other

end Json

end FlatProjection

namespace FlatProjection.Json

mutual

/-- The nesting depth of a document: scalars have depth 0. -/
def depth : Json → Nat
  | .arr items => itemsDepth items + 1
  | .obj members => membersDepth members + 1
  | _ => 0

/-- The greatest depth among array items. -/
def itemsDepth : List Json → Nat
  | [] => 0
  | doc :: rest => max (depth doc) (itemsDepth rest)

/-- The greatest depth among member values. -/
def membersDepth : List (String × Json) → Nat
  | [] => 0
  | (_, doc) :: rest => max (depth doc) (membersDepth rest)

end

end FlatProjection.Json
