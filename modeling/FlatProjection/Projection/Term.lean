/-
Projections as written: a member path, an anonymous object `new { … }`, a constructor call
`new W(…)`, or a constructor call with member bindings `new W(…) { M = … }`.
-/

namespace FlatProjection.Projection

/-- A dotted member path from a query source: `customer.Address.City`. -/
structure MemberPath where
  root : String
  members : List String
deriving DecidableEq, Inhabited, Repr

namespace MemberPath

/-- The member name a path gives when none is written: its last member, or the root of a
bare source. -/
def defaultName (path : MemberPath) : String := path.members.getLast?.getD path.root

/-- The path written with dots. -/
def text (path : MemberPath) : String := ".".intercalate (path.root :: path.members)

end MemberPath

/-- A field of an anonymous projection: `vip = customer.Vip`, or only `customer.Vip`. -/
structure Field where
  name : Option String
  path : MemberPath
deriving DecidableEq, Inhabited, Repr

/-- The member a field fills: its written name, or else the path's default name. -/
def Field.memberName (field : Field) : String := field.name.getD field.path.defaultName

/-- A member binding `M = path` after a constructor call. -/
structure Binding where
  member : String
  path : MemberPath
deriving DecidableEq, Inhabited, Repr

/-- A projection as written. -/
inductive Term where
  | path (path : MemberPath)
  | anonymous (fields : List Field)
  | construct (typeName : String) (args : List MemberPath)
  | memberInit (typeName : String) (ctorArgs : List MemberPath) (bindings : List Binding)
deriving DecidableEq, Inhabited, Repr

/-- Every path of a projection in written order; constructor arguments come before
bindings. -/
def Term.paths : Term → List MemberPath
  | .path single => [single]
  | .anonymous fields => fields.map (·.path)
  | .construct _ args => args
  | .memberInit _ ctorArgs bindings => ctorArgs ++ bindings.map (·.path)

end FlatProjection.Projection
