import FlatProjection.Expr.Type
import FlatProjection.Text.Blank
/-
The collection policy: which concrete collection a regrouped field becomes.
-/

namespace FlatProjection.Flatten

/-- The concrete collection chosen for regrouped collection fields. -/
inductive CollectionPolicy where
  | declared
  | set
  | list
deriving DecidableEq, Inhabited, Repr

namespace CollectionPolicy

/-- The collection kind built for a field declared with type `declared`. -/
def concreteKind (policy : CollectionPolicy) (declared : ValueType) : CollectionKind :=
  match policy with
  | .declared => declared.collectionKind?.getD .list
  | .set => .set
  | .list => .list

/-- The lower-case name of a policy. -/
def name : CollectionPolicy → String
  | .declared => "declared"
  | .set => "set"
  | .list => "list"

/-- The policy names, in declaration order. -/
def names : List String := ["declared", "set", "list"]

/-- The policy of a lower-case name. -/
def ofName? (text : String) : Option CollectionPolicy :=
  if text == "declared" then some .declared
  else if text == "set" then some .set
  else if text == "list" then some .list
  else none

/-- The message for text that names no policy; it quotes the text as given. -/
def unknownMessage (text : String) : String :=
  s!"Unknown collection policy '{text}': expected declared, set or list"

/-- Reads a policy from text: blanks around it are trimmed and ASCII case is ignored. -/
def parse (text : String) : Except String CollectionPolicy :=
  let folded := String.ofList ((Text.trimBlank text).toList.map fun c =>
    if 'A' ≤ c && c ≤ 'Z' then Char.ofNat (c.toNat + 32) else c)
  match ofName? folded with
  | some policy => .ok policy
  | none => .error (unknownMessage text)

end CollectionPolicy

end FlatProjection.Flatten
