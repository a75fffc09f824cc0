import FlatProjection.Expr.Basic
import FlatProjection.Catalog.Basic
import FlatProjection.Projection.Term
/-
Lowering a written projection to a typed expression against the catalog.
-/

namespace FlatProjection.Lowering

open Catalog Projection

/-- Why a projection does not lower. -/
inductive ConversionError where
  | unknownSource (name : String)
  | duplicateSource (name : String)
  | notAnEntity (member ty : String)
  | duplicateMember (member : String)
  | invalidSourceDeclaration (text : String)
  | catalog (e : CatalogError)
deriving Inhabited

/-- The name of a lowering failure's kind; catalog failures are named inside `Catalog`. -/
def ConversionError.kind : ConversionError → String
  | .unknownSource .. => "UnknownSource"
  | .duplicateSource .. => "DuplicateSource"
  | .notAnEntity .. => "NotAnEntity"
  | .duplicateMember .. => "DuplicateMember"
  | .invalidSourceDeclaration .. => "InvalidSourceDeclaration"
  | .catalog e => "Catalog." ++ e.kind

/-- The message of a lowering failure. -/
def ConversionError.message : ConversionError → String
  | .unknownSource name => s!"Unknown query source `{name}`"
  | .duplicateSource name => s!"Query source `{name}` is declared more than once"
  | .notAnEntity member ty => s!"Cannot access member `{member}` on a value of type {ty}"
  | .duplicateMember member => s!"Member `{member}` is initialised more than once"
  | .invalidSourceDeclaration text => s!"Invalid source declaration `{text}`: expected name:Entity"
  | .catalog e => e.message

/-- A declared query source `name:Entity`. -/
structure SourceDeclaration where
  name : String
  entity : String
deriving DecidableEq, Inhabited, Repr

/-- Reads `name:Entity`: split at the first colon, both halves trimmed and non-empty. -/
def SourceDeclaration.parse (text : String) : Except ConversionError SourceDeclaration :=
  match text.toList.span (· != ':') with
  | (name, ':' :: entity) =>
    let name := Text.trimBlank (String.ofList name)
    let entity := Text.trimBlank (String.ofList entity)
    if name.isEmpty || entity.isEmpty then .error (.invalidSourceDeclaration text)
    else .ok ⟨name, entity⟩
  | _ => .error (.invalidSourceDeclaration text)

/-- The query sources in scope, in declaration order. -/
structure SourceScope where
  sources : List SourceRef := []
deriving Inhabited

namespace SourceScope

/-- The source of a name. -/
def get? (scope : SourceScope) (name : String) : Option SourceRef :=
  scope.sources.find? (·.name == name)

/-- Declares a source with id `id`: its name must be new and its entity known. -/
def declare (scope : SourceScope) (declaration : SourceDeclaration) (catalog : EntityCatalog)
    (id : Nat) : Except ConversionError (SourceRef × SourceScope) := do
  if (scope.get? declaration.name).isSome then throw (.duplicateSource declaration.name)
  match catalog.entity declaration.entity with
  | .error e => throw (.catalog e)
  | .ok _ =>
    let source : SourceRef := ⟨id, declaration.name, declaration.entity⟩
    return (source, { sources := scope.sources ++ [source] })

end SourceScope

/-- Lowers a member path: the source of its root, then one member access per step, each on
an entity. -/
def lowerPath (catalog : EntityCatalog) (scope : SourceScope) (path : MemberPath) :
    Except ConversionError Expr := do
  let some source := scope.get? path.root | throw (.unknownSource path.root)
  let step (expr : Expr) (member : String) : Except ConversionError Expr :=
    match expr.ty with
    | .entity entity =>
      match catalog.propertyType entity member with
      | .ok ty => .ok (.memberAccess expr member ty)
      | .error e => .error (.catalog e)
    | other => .error (.notAnEntity member other.render)
  path.members.foldlM step (Expr.querySource source)

/-- Adds a record member; its name must be new. -/
def pushMember (members : List (String × ValueType)) (name : String) (ty : ValueType) :
    Except ConversionError (List (String × ValueType)) :=
  if members.any (·.1 == name) then .error (.duplicateMember name) else .ok (members ++ [(name, ty)])

/-- Lowers named paths in order, collecting the members they name. -/
def lowerNamed (catalog : EntityCatalog) (scope : SourceScope) (members : List (String × ValueType))
    (named : List (String × MemberPath)) :
    Except ConversionError (List (String × ValueType) × List Expr) :=
  let step (done : List (String × ValueType) × List Expr) (entry : String × MemberPath) :
      Except ConversionError (List (String × ValueType) × List Expr) := do
    let expr ← lowerPath catalog scope entry.2
    let members ← pushMember done.1 entry.1 expr.ty
    return (members, done.2 ++ [expr])
  named.foldlM step (members, [])

/-- Lowers a written projection against a catalog and the sources in scope. -/
def lowerProjection (catalog : EntityCatalog) (scope : SourceScope) :
    Term → Except ConversionError Expr
  | .path single => lowerPath catalog scope single
  | .anonymous fields => do
    let (members, args) ← lowerNamed catalog scope [] (fields.map fun f => (f.memberName, f.path))
    return .new ⟨none, members⟩ args
  | .construct typeName args => do
    let (members, lowered) ← lowerNamed catalog scope [] (args.map fun a => (a.defaultName, a))
    return .new ⟨some typeName, members⟩ lowered
  | .memberInit typeName ctorArgs bindings => do
    let (members, lowered) ← lowerNamed catalog scope [] (ctorArgs.map fun a => (a.defaultName, a))
    let (members, bound) ← lowerNamed catalog scope members (bindings.map fun b => (b.member, b.path))
    return .memberInit ⟨some typeName, members⟩ lowered ((bindings.map (·.member)).zip bound)

end FlatProjection.Lowering
