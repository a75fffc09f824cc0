import FlatProjection.Eval.Value
import FlatProjection.Expr.Render
/-
Evaluating projection programs over values, in a scope where the latest binding wins.
-/

namespace FlatProjection.Eval

/-- Why a program fails on given values. -/
inductive EvalError where
  | unboundParameter (name : String)
  | notASequence (found : String)
  | invalidCast (expected found : String)
  | indexOutOfRange (index len : Nat)
  | notATuple (found : String)
  | notAGroup (found : String)
  | missingMember (member found : String)
deriving Inhabited

/-- The name of an evaluation failure's kind. -/
def EvalError.kind : EvalError → String
  | .unboundParameter .. => "UnboundParameter"
  | .notASequence .. => "NotASequence"
  | .invalidCast .. => "InvalidCast"
  | .indexOutOfRange .. => "IndexOutOfRange"
  | .notATuple .. => "NotATuple"
  | .notAGroup .. => "NotAGroup"
  | .missingMember .. => "MissingMember"

/-- The message of an evaluation failure. -/
def EvalError.message : EvalError → String
  | .unboundParameter name => s!"Unbound parameter `{name}`"
  | .notASequence found => s!"Expected a sequence, found {found}"
  | .invalidCast expected found => s!"Cannot cast {found} to {expected}"
  | .indexOutOfRange index len => s!"Index {index} out of range for a row of {len} cells"
  | .notATuple found => s!"Expected a tuple or row, found {found}"
  | .notAGroup found => s!"Expected a grouping, found {found}"
  | .missingMember member found => s!"Member `{member}` not found on {found}"

/-- Bound names, the most recent first. -/
abbrev Scope := List (String × Value)

/-- The value most recently bound to a name. -/
def lookup (scope : Scope) (name : String) : Except EvalError Value :=
  match scope.find? (·.1 == name) with
  | some (_, v) => .ok v
  | none => .error (.unboundParameter name)

/-- The items of a list, a set or a group. -/
def itemsOf : Value → Except EvalError (List Value)
  | .list items | .set items => .ok items
  | .group _ values => .ok values
  | other => .error (.notASequence other.kindName)

/-- Reinterprets one item as `element`: a list read as a tuple type becomes a tuple, since
rows arrive as plain cell lists. -/
def castItem (element : ValueType) (item : Value) : Except EvalError Value :=
  let item := match item, element with
    | .list cells, .tuple _ => .tuple cells
    | other, _ => other
  if item.conformsTo element then .ok item else .error (.invalidCast element.render item.kindName)

/-- Adds a value to the group of its key, or opens a new group at the end. -/
def addToGroup (groups : List (Value × List Value)) (key value : Value) : List (Value × List Value) :=
  if groups.any (·.1 == key) then
    groups.map fun (k, values) => if k == key then (k, values ++ [value]) else (k, values)
  else groups ++ [(key, [value])]

mutual

/-- Evaluates an expression in a scope. -/
def evaluate (scope : Scope) : Expr → Except EvalError Value
  | .querySource ref => lookup scope ref.name
  | .parameter p => lookup scope p.name
  | .literal lit => .ok (Value.ofLiteral lit)
  | .memberAccess target member _ => do
    let v ← evaluate scope target
    match v.field? member with
    | some x => .ok x
    | none => .error (.missingMember member v.kindName)
  | .new ty args => do
    let fields ← evaluateFields scope ty.members args
    .ok (.record ty.name fields)
  | .memberInit ty ctorArgs bindings => do
    let leading ← evaluateFields scope ty.members ctorArgs
    let bound ← evaluateBindings scope bindings
    .ok (.record ty.name (leading ++ bound))
  | .convert operand ty => do
    let v ← evaluate scope operand
    if v.conformsTo ty then .ok v else .error (.invalidCast ty.render v.kindName)
  | .rowIndex row index | .tupleItem row index _ => do
    let cells ← match ← evaluate scope row with
      | .tuple cells | .list cells => .ok cells
      | other => .error (.notATuple other.kindName)
    match cells[index]? with
    | some cell => .ok cell
    | none => .error (.indexOutOfRange index cells.length)
  | .mkTuple _ items => do
    .ok (.tuple (← evaluateList scope items))
  | .groupKey group => do
    match ← evaluate scope group with
    | .group key _ => .ok key
    | other => .error (.notAGroup other.kindName)
  | .cast source element => do
    let items ← itemsOf (← evaluate scope source)
    .ok (.list (← items.mapM (castItem element)))
  | .groupBy source keyParam key valueParam value => do
    let items ← itemsOf (← evaluate scope source)
    let groups ← items.foldlM (fun groups item => do
      let k ← evaluate ((keyParam.name, item) :: scope) key
      let v ← evaluate ((valueParam.name, item) :: scope) value
      pure (addToGroup groups k v)) []
    .ok (.list (groups.map fun (k, values) => .group k values))
  | .select source param body => do
    let items ← itemsOf (← evaluate scope source)
    .ok (.list (← items.mapM fun item => evaluate ((param.name, item) :: scope) body))
  | .toArray source => do
    .ok (.list (← itemsOf (← evaluate scope source)))
  | .newCollection kind _ source => do
    let items := (← itemsOf (← evaluate scope source)).filter fun
      | .null => false
      | _ => true
    .ok (match kind with
      | .set => Value.setOf items
      | .list => .list items)

/-- Evaluates expressions in order. -/
def evaluateList (scope : Scope) : List Expr → Except EvalError (List Value)
  | [] => .ok []
  | e :: rest => do
    let v ← evaluate scope e
    .ok (v :: (← evaluateList scope rest))

/-- Evaluates arguments as the leading members of a record, pairing members with arguments
while both last. -/
def evaluateFields (scope : Scope) : List (String × ValueType) → List Expr →
    Except EvalError (List (String × Value))
  | (name, _) :: members, arg :: args => do
    let v ← evaluate scope arg
    .ok ((name, v) :: (← evaluateFields scope members args))
  | _, _ => .ok []

/-- Evaluates member bindings in order. -/
def evaluateBindings (scope : Scope) : List (String × Expr) → Except EvalError (List (String × Value))
  | [] => .ok []
  | (member, e) :: rest => do
    let v ← evaluate scope e
    .ok ((member, v) :: (← evaluateBindings scope rest))

end

/-- Flat rows read from JSON: the document must be an array, and each inner array becomes a
tuple. -/
def rowsOfJson (doc : Json) : Except EvalError (List Value) :=
  match Value.ofJson doc with
  | .list rows => .ok (rows.map fun
      | .list cells => .tuple cells
      | other => other)
  | other => .error (.notASequence other.kindName)

/-- Runs a regrouping program: its parameter is bound to the rows as a list, and its body
must give a list or a set. -/
def applyProgram (rowsName : String) (body : Expr) (rows : List Value) :
    Except EvalError (List Value) := do
  match ← evaluate [(rowsName, .list rows)] body with
  | .list results | .set results => .ok results
  | other => .error (.notASequence other.kindName)

end FlatProjection.Eval
