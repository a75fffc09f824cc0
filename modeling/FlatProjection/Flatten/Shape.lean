import FlatProjection.Expr.Render
import FlatProjection.Flatten.Policy
/-
The pieces of a flattening: a projection's shape, its collection owners and the tuple layout.
-/

namespace FlatProjection.Flatten

/-- Why a projection cannot be flattened. -/
inductive FlattenError where
  /-- Collection fields owned by more than one source, written `name#id`; the caller may run
  the projection unflattened instead. -/
  | unsupportedProjection (sources : List String)
  | unsupportedArity (arity least most : Nat)
  | invalidShape (expected found : String)
deriving Inhabited

/-- The name of a flattening failure's kind. -/
def FlattenError.kind : FlattenError → String
  | .unsupportedProjection .. => "UnsupportedProjection"
  | .unsupportedArity .. => "UnsupportedArity"
  | .invalidShape .. => "InvalidShape"

/-- The message of a flattening failure. -/
def FlattenError.message : FlattenError → String
  | .unsupportedProjection sources =>
    s!"Unsupported projection: collection fields reference {sources.length} distinct query sources (" ++
      ", ".intercalate sources ++ ")"
  | .unsupportedArity arity least most =>
    s!"Unsupported arity {arity}: supported arities are {least} through {most}"
  | .invalidShape expected found => s!"Invalid shape: expected {expected}, found {found}"

/-- An arity failure as a flattening failure. -/
def FlattenError.ofArity (e : ArityError) : FlattenError := .unsupportedArity e.arity e.least e.most

/-- A tuple of the given items, if their number is an allowed arity. -/
def tupleOf (items : List Expr) : Except FlattenError Expr :=
  (Expr.tupleOf items).mapError FlattenError.ofArity

/-- How a projection is built from its fields. -/
inductive ShapeKind where
  | member
  | new (ty : RecordType)
  | memberInit (ty : RecordType) (ctorLength : Nat) (bindingMembers : List String)
deriving Inhabited

/-- A projection split into its kind and its fields. -/
structure Shape where
  kind : ShapeKind
  fields : List Expr
deriving Inhabited

namespace Shape

/-- The shape of a projection; other expressions have none. -/
def classify? : Expr → Option Shape
  | e@(.memberAccess ..) => some ⟨.member, [e]⟩
  | .new ty args => some ⟨.new ty, args⟩
  | .memberInit ty ctorArgs bindings =>
    some ⟨.memberInit ty ctorArgs.length (bindings.map (·.1)), ctorArgs ++ bindings.map (·.2)⟩
  | _ => none

/-- The number of fields. -/
def arity (shape : Shape) : Nat := shape.fields.length

/-- The projection of the same shape built from other fields, as many as before. -/
def rebuild (shape : Shape) (fields : List Expr) : Except FlattenError Expr :=
  if fields.length != shape.arity then
    .error (.invalidShape s!"{shape.arity} projection fields" s!"{fields.length} fields")
  else
    match shape.kind with
    | .member =>
      match fields with
      | first :: _ => .ok first
      | [] => .error (.invalidShape "one projection field" "none")
    | .new ty => .ok (.new ty fields)
    | .memberInit ty ctorLength members =>
      .ok (.memberInit ty (fields.take ctorLength) (members.zip (fields.drop ctorLength)))

end Shape

/-- A collection read straight off a query source: the source that owns it and the member
access that reads it. -/
structure CollectionReference where
  owner : SourceRef
  member : Expr
deriving Inhabited

/-- The collections a field reads, in walk order: walking down member accesses and
conversions, every member access of collection type whose target is a query source. -/
def collectionReferences : Expr → List CollectionReference
  | e@(.memberAccess target _ ty) =>
    let here := match target with
      | .querySource owner => if ty.isCollection then [⟨owner, e⟩] else []
      | _ => []
    here ++ collectionReferences target
  | .convert operand _ => collectionReferences operand
  | _ => []

/-- The owners of the collections a field reads, one per reference. -/
def collectionOwners (field : Expr) : List SourceRef := (collectionReferences field).map (·.owner)

/-- Where the owner's key sits in the tuple: injected first, or an existing field. -/
inductive OwnerKey where
  | injected (source : SourceRef)
  | field (source : SourceRef) (position : Nat)
deriving Inhabited

/-- The owner's source. -/
def OwnerKey.source : OwnerKey → SourceRef
  | .injected source | .field source _ => source

/-- The owner key's position in the tuple. -/
def OwnerKey.position : OwnerKey → Nat
  | .injected _ => 0
  | .field _ position => position

/-- A collection field's position in the tuple, its declared type and its element type. -/
structure Slot where
  position : Nat
  declared : ValueType
  element : ValueType
deriving Inhabited

/-- The tuple layout of a flattened projection; slots are sorted by position. -/
structure Layout where
  owner : OwnerKey
  arity : Nat
  slots : List Slot
deriving Inhabited

namespace Layout

/-- Whether the owner key was added as a new first item. -/
def ownerInjected (layout : Layout) : Bool :=
  match layout.owner with
  | .injected _ => true
  | .field .. => false

/-- How far the projection's fields are shifted in the tuple. -/
def fieldOffset (layout : Layout) : Nat := if layout.ownerInjected then 1 else 0

/-- The tuple position of a projection field. -/
def positionOfField (layout : Layout) (field : Nat) : Nat := field + layout.fieldOffset

/-- The positions of the collection fields. -/
def injectedIndices (layout : Layout) : List Nat := layout.slots.map (·.position)

/-- The collection slot at a position. -/
def slotAt? (layout : Layout) (position : Nat) : Option Slot :=
  layout.slots.find? (·.position == position)

/-- The positions that are not collection slots: the grouping key. -/
def keyPositions (layout : Layout) : List Nat :=
  (List.range layout.arity).filter fun p => (layout.slotAt? p).isNone

end Layout

end FlatProjection.Flatten
