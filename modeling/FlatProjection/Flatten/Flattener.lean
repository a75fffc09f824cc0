import FlatProjection.Flatten.Shape
/-
The projection flattener: a flat tuple for the query and a transform that regroups its rows.
-/

namespace FlatProjection.Flatten

/-- The most fields a flattenable projection may have: one tuple item is kept for an injected
owner key. -/
def maxProjectionFields : Nat := tupleArityRange.2 - 1

/-- The flattener's settings: the placeholder for one raw row, the name of the flat row
sequence, and the collection policy. -/
structure Flattener where
  input : Param
  rowsParameter : String := "rows"
  policy : CollectionPolicy := .declared
deriving Inhabited

/-- What the flattening remembers between its two steps. -/
structure FlattenState where
  shape : Shape
  layout : Layout
deriving Inhabited

/-- The first step's outcome: the projection to run and, when it was flattened, the state. -/
structure PreProcessed where
  expression : Expr
  state : Option FlattenState
deriving Inhabited

/-- The program that regroups flat rows: a parameter for the rows and a body over it. -/
structure Transform where
  rows : Param
  body : Expr
deriving Inhabited

/-- The element type of the transform's result. -/
def Transform.outputElementType (t : Transform) : ValueType := t.body.ty.elementType?.getD .object

/-- The written form of a transform: `rows => body`. -/
def Transform.render (t : Transform) : String := t.rows.name ++ " => " ++ t.body.render

/-- A finished flattening: the projection to run and, for collection fields, the transform. -/
structure FlatPlan where
  expression : Expr
  transform : Option Transform
deriving Inhabited

/-- The owner of the collection fields of a shape's fields, in first-seen order, and those
fields with their types. -/
def scanFields (fields : List Expr) : List SourceRef × List (Nat × ValueType) :=
  let addOwner (owners : List SourceRef) (owner : SourceRef) : List SourceRef :=
    if owners.any (·.id == owner.id) then owners else owners ++ [owner]
  let visit (found : List SourceRef × List (Nat × ValueType)) (entry : Expr × Nat) :=
    let (owners, collections) := found
    let (field, index) := entry
    let ty := field.ty
    let references := collectionOwners field
    if !ty.isCollection || references.isEmpty then (owners, collections)
    else (references.foldl addOwner owners, collections ++ [(index, ty)])
  fields.zipIdx.foldl visit ([], [])

/-- Flattens a projection whose collection fields belong to one source into a tuple with
the owner key; other projections stay as they are. -/
def preProcess (expr : Expr) : Except FlattenError PreProcessed := do
  let some shape := Shape.classify? expr | return ⟨expr, none⟩
  let (owners, collections) := scanFields shape.fields
  if owners.length > 1 then
    throw (.unsupportedProjection (owners.map fun s => s.name ++ "#" ++ toString s.id))
  let some owner := owners.head? | return ⟨expr, none⟩
  if shape.arity > maxProjectionFields then
    throw (.unsupportedArity shape.arity 1 maxProjectionFields)
  let ownerKey : OwnerKey :=
    match shape.fields.findIdx? (fun f => f.asSource?.map (·.id) == some owner.id) with
    | some position => .field owner position
    | none => .injected owner
  let injected := match ownerKey with
    | .injected source => [Expr.querySource source]
    | .field .. => []
  let items := injected ++ shape.fields
  let tuple ← tupleOf items
  let offset := injected.length
  let slots := collections.map fun (field, declared) =>
    ({ position := field + offset, declared, element := declared.elementType?.getD .object } : Slot)
  let layout : Layout := ⟨ownerKey, items.length, slots.mergeSort (·.position ≤ ·.position)⟩
  return ⟨tuple, some ⟨shape, layout⟩⟩

/-- Item `position` of a tuple parameter, or a tuple of several items. -/
def selectPositions (item : Param) (positions : List Nat) : Except FlattenError Expr :=
  match positions with
  | [position] => .ok ((Expr.parameter item).item position)
  | _ => tupleOf (positions.map fun p => (Expr.parameter item).item p)

/-- The projection rebuilt from a group: collection fields from the group's values, other fields
from its key. -/
def resultSelector (shape : Shape) (layout : Layout) (policy : CollectionPolicy) (group : Param)
    (keys : List Nat) : Except FlattenError Expr := do
  let .grouping _ element := group.ty
    | throw (.invalidShape "grouping parameter" group.ty.render)
  let key := Expr.groupKey (.parameter group)
  let valueCount := layout.slots.length
  let fields ← (List.range shape.arity).mapM fun field => do
    let position := layout.positionOfField field
    match layout.slotAt? position with
    | some slot =>
      let rank := (layout.slots.findIdx? (·.position == position)).getD 0
      let values :=
        if valueCount == 1 then Expr.parameter group
        else
          let v : Param := ⟨"v", element⟩
          .select (.parameter group) v ((Expr.parameter v).item rank)
      return Expr.newCollection (policy.concreteKind slot.declared) slot.element (.toArray values)
    | none =>
      match keys.findIdx? (· == position) with
      | some rank => return if keys.length == 1 then key else key.item rank
      | none => throw (.invalidShape s!"key component for tuple position {position}" "no such key position")
  shape.rebuild fields

/-- Builds the transform that regroups rows of type `rowType`:
`rows.Cast<row>().GroupBy(item => key, item => values).Select(g => projection).ToArray()`. -/
def buildTransform (shape : Shape) (layout : Layout) (policy : CollectionPolicy)
    (rowsParameter : String) (rowType : List ValueType) : Except FlattenError Transform := do
  if rowType.length != layout.arity then
    throw (.invalidShape s!"row tuple of arity {layout.arity}" (ValueType.tuple rowType).render)
  let rows : Param := ⟨rowsParameter, .sequence .object⟩
  let cast := Expr.cast (.parameter rows) (.tuple rowType)
  let item : Param := ⟨"item", .tuple rowType⟩
  let keys := layout.keyPositions
  if keys.isEmpty then
    throw (.invalidShape "at least one grouping key position" "only collection positions")
  let keySelector ← selectPositions item keys
  let valueSelector ← selectPositions item layout.injectedIndices
  let groupBy := Expr.groupBy cast item keySelector item valueSelector
  let group : Param := ⟨"g", groupBy.ty.elementType?.getD .object⟩
  let result ← resultSelector shape layout policy group keys
  return ⟨rows, .toArray (.select groupBy group result)⟩

/-- Finishes a flattening: collection items read narrowed row cells, and the transform is built. -/
def Flattener.postProcess (flattener : Flattener) (pre : PreProcessed) (expr : Expr) :
    Except FlattenError FlatPlan := do
  let some state := pre.state | return ⟨expr, none⟩
  let .mkTuple tys items := expr | throw (.invalidShape "rewritten projection tuple" expr.render)
  if items.length != state.layout.arity then
    throw (.invalidShape s!"tuple of arity {state.layout.arity}" (ValueType.tuple tys).render)
  let narrow (items : List Expr) (slot : Slot) : List Expr :=
    items.set slot.position (.convert (.rowIndex (.parameter flattener.input) slot.position) slot.element)
  let items := state.layout.slots.foldl narrow items
  let finalized ← tupleOf items
  let transform ← buildTransform state.shape state.layout flattener.policy flattener.rowsParameter
    (items.map Expr.ty)
  return ⟨finalized, some transform⟩

/-- Both steps, the second on the first's own projection. -/
def Flattener.flatten (flattener : Flattener) (expr : Expr) : Except FlattenError FlatPlan := do
  let pre ← preProcess expr
  flattener.postProcess pre pre.expression

/-- Plans a projection: flattens it, or, when its collections belong to several sources and
`fallback` is set, leaves it as it is with no transform. -/
def Flattener.plan (flattener : Flattener) (fallback : Bool) (expr : Expr) :
    Except FlattenError FlatPlan :=
  match flattener.flatten expr with
  | .error (.unsupportedProjection sources) =>
    if fallback then .ok ⟨expr, none⟩ else .error (.unsupportedProjection sources)
  | result => result

end FlatProjection.Flatten
