import FlatProjection.Expr.Type
import FlatProjection.Number.Binary64
/-
Typed projection expressions and the types they carry.
-/

namespace FlatProjection

/-- A query source in scope. Two references are the same source exactly when their ids are
equal; the name is how the projection writes it and the item type is its entity. -/
structure SourceRef where
  id : Nat
  name : String
  itemType : String
deriving DecidableEq, Inhabited

/-- A named, typed placeholder: a lambda parameter or an input of a program. -/
structure Param where
  name : String
  ty : ValueType
deriving Inhabited

/-- A constant. -/
inductive Literal where
  | null
  | int (n : Int)
  | float (x : Number.Binary64)
  | bool (b : Bool)
  | text (s : String)
deriving Inhabited

/-- The type of a constant; `null` is an object. -/
def Literal.ty : Literal → ValueType
  | .null => .object
  | .int _ => .int
  | .float _ => .float
  | .bool _ => .bool
  | .text _ => .text

/-- A projection expression. Lambdas are written inline as a parameter and a body. -/
inductive Expr where
  | querySource (ref : SourceRef)
  | memberAccess (target : Expr) (name : String) (ty : ValueType)
  | new (ty : RecordType) (args : List Expr)
  | memberInit (ty : RecordType) (ctorArgs : List Expr) (bindings : List (String × Expr))
  | parameter (p : Param)
  | literal (lit : Literal)
  | convert (operand : Expr) (ty : ValueType)
  | rowIndex (row : Expr) (index : Nat)
  | tupleItem (tuple : Expr) (index : Nat) (ty : ValueType)
  | mkTuple (ty : List ValueType) (items : List Expr)
  | groupKey (group : Expr)
  | cast (source : Expr) (element : ValueType)
  | groupBy (source : Expr) (keyParam : Param) (key : Expr) (valueParam : Param) (value : Expr)
  | select (source : Expr) (param : Param) (body : Expr)
  | toArray (source : Expr)
  | newCollection (kind : CollectionKind) (element : ValueType) (source : Expr)
deriving Inhabited

namespace Expr

/-- The type of an expression, computed from the types its nodes carry. -/
def ty : Expr → ValueType
  | .querySource ref => .entity ref.itemType
  | .memberAccess _ _ ty => ty
  | .new r _ => .ofRecord r
  | .memberInit r _ _ => .ofRecord r
  | .parameter p => p.ty
  | .literal lit => lit.ty
  | .convert _ ty => ty
  | .rowIndex .. => .object
  | .tupleItem _ _ ty => ty
  | .mkTuple ty _ => .tuple ty
  | .groupKey group =>
    match group.ty with
    | .grouping key _ => key
    | _ => .object
  | .cast _ element => .sequence element
  | .groupBy _ _ key _ value => .sequence (.grouping key.ty value.ty)
  | .select _ _ body => .sequence body.ty
  | .toArray source => .collection .list (source.ty.elementType?.getD .object)
  | .newCollection kind element _ => .collection kind element

/-- Item `index` of a tuple expression, typed by the tuple's type (object when the type does
not say). -/
def item (tuple : Expr) (index : Nat) : Expr :=
  let ty :=
    match tuple.ty with
    | .tuple items => items[index]?.getD .object
    | _ => .object
  .tupleItem tuple index ty

/-- The query source an expression stands for, looking through conversions. -/
def asSource? : Expr → Option SourceRef
  | .querySource ref => some ref
  | .convert operand _ => operand.asSource?
  | _ => none

/-- A tuple of the given items, typed by their types, if their number is an allowed arity. -/
def tupleOf (items : List Expr) : Except ArityError Expr := do
  let tys := items.map ty
  checkArity tys.length tupleArityRange.1 tupleArityRange.2
  return .mkTuple tys items

end Expr

end FlatProjection
