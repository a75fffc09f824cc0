import FlatProjection.Eval.Machine
/-
Evaluation on the binding stack leaves the stack as it found it and agrees with the
scope interpreter.
-/

namespace FlatProjection.Eval.Machine

variable {α β : Type} {scope : Scope}

/-- `m`, run on the stack `scope`, gives `r` and leaves the stack as it found it. -/
def Restores (m : Machine α) (scope : Scope) (r : Except EvalError α) : Prop :=
  m.run.run scope = (r, scope)

theorem restores_pure (a : α) : Restores (pure a : Machine α) scope (.ok a) := rfl

theorem restores_throw (e : EvalError) : Restores (throw e : Machine α) scope (.error e) := rfl

theorem restores_liftExcept (x : Except EvalError α) : Restores (liftExcept x : Machine α) scope x := by
  cases x <;> rfl

theorem restores_lookupBound (name : String) : Restores (lookupBound name) scope (lookup scope name) := by
  have read : (lookupBound name).run.run scope = (liftExcept (lookup scope name) : Machine Value).run.run scope := rfl
  unfold Restores
  rw [read]
  exact restores_liftExcept _

/-- Two restoring steps in sequence restore, and give the sequence of their results. -/
theorem restores_bind {m : Machine α} {f : α → Machine β} {r : Except EvalError α} {g : α → Except EvalError β}
    (first : Restores m scope r) (second : ∀ a, r = .ok a → Restores (f a) scope (g a)) :
    Restores (m >>= f) scope (r >>= g) := by
  unfold Restores at *
  simp only [ExceptT.run_bind, StateT.run_bind, first]
  cases r with
  | error e => rfl
  | ok a => exact second a rfl

/-- A failure followed by anything fails with that failure, and keeps the stack. -/
theorem restores_throw_bind (e : EvalError) (f : α → Machine β) (g : α → Except EvalError β) :
    Restores (throw e >>= f) scope (.error e >>= g) :=
  restores_bind (restores_throw e) fun _ failed => nomatch failed

/-- A step run under one more binding, which then is popped, restores the stack below it. -/
theorem restores_withBinding {name : String} {arg : Value} {body : Machine α} {r : Except EvalError α}
    (inner : Restores body ((name, arg) :: scope) r) : Restores (withBinding name arg body) scope r := by
  -- the body runs on the pushed stack, and what it leaves is popped
  have pushed : (withBinding name arg body).run.run scope =
      (fun ran => (ran.1, Scope.unbind ran.2)) (body.run.run ((name, arg) :: scope)) := rfl
  unfold Restores at *
  rw [pushed, inner]
  rfl

/-- A traversal of restoring steps restores, and gives the traversal of their results. -/
theorem restores_mapM {f : β → Machine α} {g : β → Except EvalError α} :
    ∀ {xs : List β}, (∀ x ∈ xs, Restores (f x) scope (g x)) → Restores (xs.mapM f) scope (xs.mapM g)
  | [], _ => restores_pure []
  | x :: rest, each => by
    simp only [List.mapM_cons]
    refine restores_bind (each x List.mem_cons_self) fun a _ => ?_
    refine restores_bind (restores_mapM fun y member => each y (List.mem_cons_of_mem _ member)) fun others _ => ?_
    exact restores_pure _

/-- A fold of restoring steps restores, and gives the fold of their results. -/
theorem restores_foldlM {f : β → α → Machine β} {g : β → α → Except EvalError β} :
    ∀ {xs : List α} {init : β}, (∀ acc, ∀ x ∈ xs, Restores (f acc x) scope (g acc x)) →
      Restores (xs.foldlM f init) scope (xs.foldlM g init)
  | [], _, _ => restores_pure _
  | x :: rest, init, each => by
    simp only [List.foldlM_cons]
    exact restores_bind (each init x List.mem_cons_self)
      fun acc _ => restores_foldlM fun acc' y member => each acc' y (List.mem_cons_of_mem _ member)

mutual

/-- Each expression, evaluated on the stack, gives what evaluation in that scope gives and leaves
the stack as it found it. -/
theorem exec_restores : ∀ (e : Expr) (scope : Scope), Restores (exec e) scope (evaluate scope e)
  | .querySource ref, _ => restores_lookupBound ref.name
  | .parameter p, _ => restores_lookupBound p.name
  | .literal _, _ => restores_pure _
  | .memberAccess target member _, scope => by
    rw [exec, evaluate]
    refine restores_bind (exec_restores target scope) fun v _ => ?_
    cases v.field? member
    · exact restores_throw _
    · exact restores_pure _
  | .new ty args, scope => by
    rw [exec, evaluate]
    exact restores_bind (execFields_restores ty.members args scope) fun fields _ => restores_pure _
  | .memberInit ty ctorArgs bindings, scope => by
    rw [exec, evaluate]
    exact restores_bind (execFields_restores ty.members ctorArgs scope) fun leading _ =>
      restores_bind (execBindings_restores bindings scope) fun bound _ => restores_pure _
  | .convert operand ty, scope => by
    rw [exec, evaluate]
    refine restores_bind (exec_restores operand scope) fun v _ => ?_
    split
    · exact restores_pure _
    · exact restores_throw _
  | .rowIndex row index, scope | .tupleItem row index _, scope => by
    rw [exec, evaluate]
    refine restores_bind (exec_restores row scope) fun v _ => ?_
    cases v
    case tuple | list =>
      refine restores_bind (restores_pure _) fun cells _ => ?_
      dsimp only
      cases cells[index]?
      · exact restores_throw _
      · exact restores_pure _
    all_goals exact restores_throw_bind _ _ _
  | .mkTuple _ items, scope => by
    rw [exec, evaluate]
    exact restores_bind (execList_restores items scope) fun values _ => restores_pure _
  | .groupKey group, scope => by
    rw [exec, evaluate]
    refine restores_bind (exec_restores group scope) fun v _ => ?_
    cases v
    all_goals first | exact restores_pure _ | exact restores_throw _
  | .cast source element, scope => by
    rw [exec, evaluate]
    exact restores_bind (exec_restores source scope) fun xs _ =>
      restores_bind (restores_liftExcept _) fun items _ =>
        restores_bind (restores_liftExcept _) fun cast _ => restores_pure _
  | .groupBy source keyParam key valueParam value, scope => by
    rw [exec, evaluate]
    refine restores_bind (exec_restores source scope) fun xs _ =>
      restores_bind (restores_liftExcept _) fun items _ => restores_bind ?_ fun groups _ => restores_pure _
    exact restores_foldlM fun groups item _ =>
      restores_bind (restores_withBinding (exec_restores key _)) fun k _ =>
        restores_bind (restores_withBinding (exec_restores value _)) fun v _ => restores_pure _
  | .select source param body, scope => by
    rw [exec, evaluate]
    exact restores_bind (exec_restores source scope) fun xs _ =>
      restores_bind (restores_liftExcept _) fun items _ =>
        restores_bind (restores_mapM fun item _ => restores_withBinding (exec_restores body _)) fun values _ =>
          restores_pure _
  | .toArray source, scope => by
    rw [exec, evaluate]
    exact restores_bind (exec_restores source scope) fun xs _ =>
      restores_bind (restores_liftExcept _) fun items _ => restores_pure _
  | .newCollection kind _ source, scope => by
    rw [exec, evaluate]
    exact restores_bind (exec_restores source scope) fun xs _ =>
      restores_bind (restores_liftExcept _) fun items _ => restores_pure _

theorem execList_restores : ∀ (items : List Expr) (scope : Scope),
    Restores (execList items) scope (evaluateList scope items)
  | [], _ => restores_pure []
  | e :: rest, scope => by
    rw [execList, evaluateList]
    exact restores_bind (exec_restores e scope) fun v _ =>
      restores_bind (execList_restores rest scope) fun values _ => restores_pure _

theorem execFields_restores : ∀ (members : List (String × ValueType)) (args : List Expr) (scope : Scope),
    Restores (execFields members args) scope (evaluateFields scope members args)
  | (name, _) :: members, arg :: args, scope => by
    rw [execFields, evaluateFields]
    exact restores_bind (exec_restores arg scope) fun v _ =>
      restores_bind (execFields_restores members args scope) fun fields _ => restores_pure _
  | [], _, _ | _ :: _, [], _ => by
    simp only [execFields, evaluateFields]
    exact restores_pure []

theorem execBindings_restores : ∀ (bindings : List (String × Expr)) (scope : Scope),
    Restores (execBindings bindings) scope (evaluateBindings scope bindings)
  | [], _ => restores_pure []
  | (member, e) :: rest, scope => by
    rw [execBindings, evaluateBindings]
    exact restores_bind (exec_restores e scope) fun v _ =>
      restores_bind (execBindings_restores rest scope) fun bound _ => restores_pure _

end

/-- Running the interpreter on a stack gives what evaluation in that scope gives and leaves the
stack as it was, on success and on failure. -/
theorem exec_restores_scope (e : Expr) (scope : Scope) : (exec e).run.run scope = (evaluate scope e, scope) :=
  exec_restores e scope

/-- A program run on a fresh stack answers as the program evaluated in the scope of its rows. -/
theorem runProgram_eq_applyProgram (rowsName : String) (body : Expr) (rows : List Value) :
    runProgram rowsName body rows = applyProgram rowsName body rows := by
  have ran := exec_restores body (Scope.bind [] rowsName (.list rows))
  unfold Restores at ran
  unfold runProgram
  rw [ran]
  rfl

end FlatProjection.Eval.Machine
