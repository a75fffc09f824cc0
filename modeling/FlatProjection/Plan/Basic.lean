import FlatProjection.Flatten.Flattener
import FlatProjection.Expr.Codec
import FlatProjection.Expr.Equality
import FlatProjection.Config.Basic
import FlatProjection.Lowering.Basic
import FlatProjection.Projection.Parser
import FlatProjection.Eval.Machine
/-
Planning a projection end to end, and applying a plan to flat rows.
-/

namespace FlatProjection.Flatten

open Json

/-- The JSON form of a transform. -/
def Transform.toJson (t : Transform) : Json :=
  .obj [("rows", t.rows.toJson), ("body", t.body.toJson)]

/-- The JSON form of a plan. -/
def FlatPlan.toJson (plan : FlatPlan) : Json :=
  .obj [("expression", plan.expression.toJson),
    ("transform", match plan.transform with
      | some t => Transform.toJson t
      | none => .null)]

/-- Decodes a transform. -/
def Transform.decode : Decoder Transform := fun doc =>
  decodeStructure "PostProcessTransform" ["rows", "body"] (fun members => do
    let rows := readField members "rows" (Param.decodeWith (doc.depth + 1))
    let body := readField members "body" Expr.decode
    firstFailure members [("rows", rows.failure?), ("body", body.failure?)]
    return ⟨← rows.need "rows", ← body.need "body"⟩) doc

/-- Decodes a plan. -/
def FlatPlan.decode : Decoder FlatPlan :=
  decodeStructure "RewrittenProjection" ["expression", "transform"] fun members => do
    let expression := readField members "expression" Expr.decode
    let transform := readField members "transform" (Decoder.option Transform.decode)
    firstFailure members [("expression", expression.failure?), ("transform", transform.failure?)]
    return ⟨← expression.need "expression", ← transform.orNone⟩

/-- Equality of plans. -/
def FlatPlan.beq (a b : FlatPlan) : Bool :=
  a.expression == b.expression &&
    match a.transform, b.transform with
    | some s, some t => s.rows.beq t.rows && s.body == t.body
    | none, none => true
    | _, _ => false

/-- Whether a plan's JSON form decodes back to an equal plan. -/
def FlatPlan.roundTrips (plan : FlatPlan) : Bool :=
  match FlatPlan.decode plan.toJson with
  | .ok back => plan.beq back
  | .error _ => false

/-- Applies a plan to flat rows: through its transform, or unchanged without one. -/
def FlatPlan.apply (plan : FlatPlan) (rows : List Eval.Value) :
    Except Eval.EvalError (List Eval.Value) :=
  match plan.transform with
  | some t => Eval.Machine.runProgram t.rows.name t.body rows
  | none => .ok rows

end FlatProjection.Flatten

namespace FlatProjection.Plan

open Json Flatten Config Lowering

/-- The flattener a configuration describes; the row placeholder is an object. -/
def flattenerOf (config : FlattenConfig) : Flattener :=
  ⟨⟨config.inputParameter, .object⟩, config.rowsParameter, config.collectionPolicy⟩

/-- Plans a typed projection. -/
def planProjection (config : FlattenConfig) (shape : Expr) : Except FlattenError FlatPlan :=
  (flattenerOf config).plan config.fallbackOnUnsupported shape

/-- Why projection text does not plan. -/
inductive PlanError where
  | parse (message : String)
  | conversion (e : ConversionError)
  | flatten (e : FlattenError)
deriving Inhabited

/-- The message of a planning failure. -/
def PlanError.message : PlanError → String
  | .parse message => message
  | .conversion e => e.message
  | .flatten e => e.message

/-- Parses, lowers and plans projection text. -/
def planProjectionText (text : String) (catalog : Catalog.EntityCatalog) (scope : SourceScope)
    (config : FlattenConfig) : Except PlanError FlatPlan := do
  let term ← (Projection.parse text).mapError fun trace =>
    PlanError.parse ("Failed to parse projection:\n" ++ Projection.traceMessage trace)
  let shape ← (lowerProjection catalog scope term).mapError .conversion
  (planProjection config shape).mapError .flatten

end FlatProjection.Plan
