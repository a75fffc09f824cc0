import FlatProjection.Eval.Interpreter
/-
The interpreter over one binding stack that lambdas push and pop in place.
-/

namespace FlatProjection.Eval

/-- Pushes a binding; it shadows earlier bindings of the name. -/
def Scope.bind (scope : Scope) (name : String) (v : Value) : Scope := (name, v) :: scope

/-- Pops the most recent binding; an empty scope stays empty. -/
def Scope.unbind (scope : Scope) : Scope := scope.tail

/-- Steps over the binding stack: they read and change the stack and may fail; a failure keeps
the stack as it stands. -/
abbrev Machine := ExceptT EvalError (StateM Scope)

namespace Machine

/-- Reads the value most recently bound to a name on the stack. -/
def lookupBound (name : String) : Machine Value := do
  liftExcept (lookup (← get) name)

/-- Runs `body` with `name` bound to `arg` on top of the stack, then pops that binding again,
whether `body` succeeded or failed. -/
def withBinding {α : Type} (name : String) (arg : Value) (body : Machine α) : Machine α := ExceptT.mk do
  modify fun scope => Scope.bind scope name arg
  let result ← body.run
  modify Scope.unbind
  pure result

mutual

/-- Evaluates an expression on the binding stack; the lambdas of `GroupBy` and `Select` bind
their parameter for each item. -/
def exec : Expr → Machine Value
  | .querySource ref => lookupBound ref.name
  | .parameter p => lookupBound p.name
  | .literal lit => pure (Value.ofLiteral lit)
  | .memberAccess target member _ => do
    let v ← exec target
    match v.field? member with
    | some x => pure x
    | none => throw (.missingMember member v.kindName)
  | .new ty args => do
    let fields ← execFields ty.members args
    pure (.record ty.name fields)
  | .memberInit ty ctorArgs bindings => do
    let leading ← execFields ty.members ctorArgs
    let bound ← execBindings bindings
    pure (.record ty.name (leading ++ bound))
  | .convert operand ty => do
    let v ← exec operand
    if v.conformsTo ty then pure v else throw (.invalidCast ty.render v.kindName)
  | .rowIndex row index | .tupleItem row index _ => do
    let cells ← match ← exec row with
      | .tuple cells | .list cells => pure cells
      | other => throw (.notATuple other.kindName)
    match cells[index]? with
    | some cell => pure cell
    | none => throw (.indexOutOfRange index cells.length)
  | .mkTuple _ items => do
    pure (.tuple (← execList items))
  | .groupKey group => do
    match ← exec group with
    | .group key _ => pure key
    | other => throw (.notAGroup other.kindName)
  | .cast source element => do
    let items ← liftExcept (itemsOf (← exec source))
    pure (.list (← liftExcept (items.mapM (castItem element))))
  | .groupBy source keyParam key valueParam value => do
    let items ← liftExcept (itemsOf (← exec source))
    let groups ← items.foldlM (fun groups item => do
      let k ← withBinding keyParam.name item (exec key)
      let v ← withBinding valueParam.name item (exec value)
      pure (addToGroup groups k v)) []
    pure (.list (groups.map fun (k, values) => .group k values))
  | .select source param body => do
    let items ← liftExcept (itemsOf (← exec source))
    pure (.list (← items.mapM fun item => withBinding param.name item (exec body)))
  | .toArray source => do
    pure (.list (← liftExcept (itemsOf (← exec source))))
  | .newCollection kind _ source => do
    let items := (← liftExcept (itemsOf (← exec source))).filter fun
      | .null => false
      | _ => true
    pure (match kind with
      | .set => Value.setOf items
      | .list => .list items)

/-- Evaluates expressions in order. -/
def execList : List Expr → Machine (List Value)
  | [] => pure []
  | e :: rest => do
    let v ← exec e
    pure (v :: (← execList rest))

/-- Evaluates arguments as the leading members of a record, pairing members with arguments
while both last. -/
def execFields : List (String × ValueType) → List Expr → Machine (List (String × Value))
  | (name, _) :: members, arg :: args => do
    let v ← exec arg
    pure ((name, v) :: (← execFields members args))
  | _, _ => pure []

/-- Evaluates member bindings in order. -/
def execBindings : List (String × Expr) → Machine (List (String × Value))
  | [] => pure []
  | (member, e) :: rest => do
    let v ← exec e
    pure ((member, v) :: (← execBindings rest))

end

/-- Runs a regrouping program: a fresh stack binds the program's parameter to the rows, and the
body must give a list or a set. -/
def runProgram (rowsName : String) (body : Expr) (rows : List Value) : Except EvalError (List Value) := do
  let (result, _) := Id.run ((exec body).run.run (Scope.bind [] rowsName (.list rows)))
  match ← result with
  | .list results | .set results => .ok results
  | other => .error (.notASequence other.kindName)

end Machine

end FlatProjection.Eval
