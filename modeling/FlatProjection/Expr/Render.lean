import FlatProjection.Expr.Basic
import FlatProjection.Number.Layout
/-
The written form of expressions in the query syntax.
-/

namespace FlatProjection

open Number

/-- Number constants are written positionally with the fewest digits that read back, with no
exponent and no `.0` on integral values. -/
def literalNumberStyle : DecimalStyle where
  positional := none
  pointZero := false
  plusExponent := false

/-- The written form of a constant; text is quoted but not escaped. -/
def Literal.render : Literal → String
  | .null => "null"
  | .int n => toString n
  | .float x => if x.isFinite then x.shortest.render literalNumberStyle
    else if x.isNaN then "NaN" else if x.negative then "-inf" else "inf"
  | .bool b => if b then "true" else "false"
  | .text s => "\"" ++ s ++ "\""

namespace Expr

mutual

/-- The written form of an expression. -/
def render : Expr → String
  | .querySource ref => ref.name
  | .memberAccess target name _ => render target ++ "." ++ name
  | .new r args =>
    match r.name with
    | some name => "new " ++ name ++ "(" ++ renderList args ++ ")"
    | none => "new \x7b " ++ renderFields r.members args ++ " \x7d"
  | .memberInit r ctorArgs bindings =>
    "new " ++ r.name.getD "" ++ "(" ++ renderList ctorArgs ++ ") \x7b " ++
      renderBindings bindings ++ " \x7d"
  | .parameter p => p.name
  | .literal lit => lit.render
  | .convert operand ty => "Convert(" ++ render operand ++ ", " ++ ty.render ++ ")"
  | .rowIndex row index => render row ++ "[" ++ toString index ++ "]"
  | .tupleItem tuple index _ => render tuple ++ ".Item" ++ toString (index + 1)
  | .mkTuple ty items => "new " ++ (ValueType.tuple ty).render ++ "(" ++ renderList items ++ ")"
  | .groupKey group => render group ++ ".Key"
  | .cast source element => render source ++ ".Cast<" ++ element.render ++ ">()"
  | .groupBy source keyParam key valueParam value =>
    render source ++ ".GroupBy(" ++ keyParam.name ++ " => " ++ render key ++ ", " ++
      valueParam.name ++ " => " ++ render value ++ ")"
  | .select source p body => render source ++ ".Select(" ++ p.name ++ " => " ++ render body ++ ")"
  | .toArray source => render source ++ ".ToArray()"
  | .newCollection kind element source =>
    "new " ++ kind.name ++ "<" ++ element.render ++ ">(" ++ render source ++ ")"

/-- Expressions separated by commas. -/
def renderList : List Expr → String
  | [] => ""
  | [e] => render e
  | e :: rest => render e ++ ", " ++ renderList rest

/-- Record members paired with their values, `m = value`, as far as both lists go. -/
def renderFields : List (String × ValueType) → List Expr → String
  | (m, _) :: [], e :: _ => m ++ " = " ++ render e
  | (m, _) :: _, [e] => m ++ " = " ++ render e
  | (m, _) :: ms, e :: es => m ++ " = " ++ render e ++ ", " ++ renderFields ms es
  | _, _ => ""

/-- Member bindings `m = value` separated by commas. -/
def renderBindings : List (String × Expr) → String
  | [] => ""
  | [(m, e)] => m ++ " = " ++ render e
  | (m, e) :: rest => m ++ " = " ++ render e ++ ", " ++ renderBindings rest

end

end Expr

end FlatProjection
