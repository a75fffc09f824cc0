import FlatProjection.Proofs.Eval.Grouping
import FlatProjection.Proofs.Traversal
/-
What the interpreter gives on the expressions of a regrouping program.
-/

namespace FlatProjection.Eval

theorem lookup_cons_self (name : String) (v : Value) (scope : Scope) : lookup ((name, v) :: scope) name = .ok v := by
  simp [lookup]

/-- Whether a value is not null: the values a new collection keeps. -/
def Value.isPresent : Value → Bool
  | .null => false
  | _ => true

/-- The collection of the given kind that holds the values that are not null, in order; a set
keeps the first of equal values. -/
def Value.collectionOf (kind : CollectionKind) (items : List Value) : Value :=
  match kind with
  | .set => Value.setOf (items.filter Value.isPresent)
  | .list => .list (items.filter Value.isPresent)

section Equations

variable {scope : Scope}

-- Within this section `simp` unfolds the interpreter one constructor at a time, and its binds.
attribute [local simp] evaluate evaluateList evaluateFields evaluateBindings bind Except.bind

theorem evaluate_parameter (p : Param) : evaluate scope (.parameter p) = lookup scope p.name := by
  simp

theorem evaluate_tupleItem {row : Expr} {cells : List Value} (tupled : evaluate scope row = .ok (.tuple cells))
    {index : Nat} (inside : index < cells.length) (ty : ValueType) :
    evaluate scope (.tupleItem row index ty) = .ok cells[index] := by
  simp [tupled, inside]

theorem evaluate_item {row : Expr} {cells : List Value} (tupled : evaluate scope row = .ok (.tuple cells))
    {index : Nat} (inside : index < cells.length) : evaluate scope (row.item index) = .ok cells[index] :=
  evaluate_tupleItem tupled inside _

theorem evaluateList_map {α : Type} {xs : List α} {f : α → Expr} {g : α → Value}
    (each : ∀ x ∈ xs, evaluate scope (f x) = .ok (g x)) : evaluateList scope (xs.map f) = .ok (xs.map g) := by
  induction xs with
  | nil => simp
  | cons x rest ih =>
    have others := ih fun other member => each other (List.mem_cons_of_mem _ member)
    simp [each x (List.mem_cons_self ..), others]

/-- A list of expressions evaluates exactly when each one does, item by item. -/
theorem evaluateList_eq_ok_iff {items : List Expr} {values : List Value} :
    evaluateList scope items = .ok values ↔ List.Forall₂ (fun e v => evaluate scope e = .ok v) items values := by
  induction items generalizing values with
  | nil => cases values <;> simp
  | cons e rest ih =>
    cases found : evaluate scope e with
    | error err => cases values <;> simp [found]
    | ok v =>
      cases others : evaluateList scope rest with
      | error err => cases values <;> simp [found, others, ← ih]
      | ok vs => cases values <;> simp [found, others, ← ih]

/-- A tuple expression that succeeds gives the tuple of its items' values. -/
theorem evaluate_mkTuple_eq_ok {tys : List ValueType} {items : List Expr} {v : Value}
    (evaluated : evaluate scope (.mkTuple tys items) = .ok v) :
    ∃ cells, v = .tuple cells ∧ List.Forall₂ (fun e c => evaluate scope e = .ok c) items cells := by
  cases listed : evaluateList scope items with
  | error err => simp [listed] at evaluated
  | ok cells =>
    simp only [evaluate, listed, bind, Except.bind, Except.ok.injEq] at evaluated
    exact ⟨cells, evaluated.symm, evaluateList_eq_ok_iff.mp listed⟩

/-- A conversion that succeeds gives its operand's value unchanged. -/
theorem evaluate_convert_eq_ok {operand : Expr} {ty : ValueType} {v : Value}
    (evaluated : evaluate scope (.convert operand ty) = .ok v) : evaluate scope operand = .ok v := by
  cases inner : evaluate scope operand with
  | error err => simp [inner] at evaluated
  | ok w =>
    simp only [evaluate, inner, bind, Except.bind] at evaluated
    split at evaluated
    · rw [evaluated]
    · cases evaluated

theorem evaluate_mkTuple {items : List Expr} {values : List Value} (evaluated : evaluateList scope items = .ok values)
    (tys : List ValueType) : evaluate scope (.mkTuple tys items) = .ok (.tuple values) := by
  simp [evaluated]

theorem evaluate_groupKey {group : Expr} {key : Value} {values : List Value}
    (grouped : evaluate scope group = .ok (.group key values)) : evaluate scope (.groupKey group) = .ok key := by
  simp [grouped]

/-- A cast reads each item as the element type: a plain row becomes a tuple. -/
theorem evaluate_cast {source : Expr} {items : List Value} (listed : evaluate scope source = .ok (.list items))
    {element : ValueType} {cast : Value → Value} (each : ∀ item ∈ items, castItem element item = .ok (cast item)) :
    evaluate scope (.cast source element) = .ok (.list (items.map cast)) := by
  have cast : items.mapM (castItem element) = .ok (items.map cast) := by
    simpa using mapM_map_eq_ok id each
  simp [listed, itemsOf, cast]

/-- `GroupBy` over the items of a list, a set or a group gives one group per class of keys, in
the order the keys first appear, with the values of the group's items in order. -/
theorem evaluate_groupBy_of_itemsOf {source : Expr} {xs : Value} {items : List Value}
    (evaluated : evaluate scope source = .ok xs) (listed : itemsOf xs = .ok items)
    {keyParam valueParam : Param} {key value : Expr} {keyOf valueOf : Value → Value}
    (keyed : ∀ item ∈ items, evaluate ((keyParam.name, item) :: scope) key = .ok (keyOf item))
    (valued : ∀ item ∈ items, evaluate ((valueParam.name, item) :: scope) value = .ok (valueOf item)) :
    evaluate scope (.groupBy source keyParam key valueParam value) =
      .ok (.list ((groupRows keyOf items).map fun group => .group (keyOf group.1) (group.2.map valueOf))) := by
  have folded : items.foldlM (fun groups item => do
      let k ← evaluate ((keyParam.name, item) :: scope) key
      let v ← evaluate ((valueParam.name, item) :: scope) value
      pure (addToGroup groups k v)) [] = .ok (items.foldl (groupStep keyOf valueOf) []) := by
    apply foldlM_eq_ok_foldl
    intro groups item member
    simp [keyed item member, valued item member, groupStep, pure, Except.pure]
  simp only [bind, Except.bind] at folded
  simp only [evaluate, evaluated, listed, bind, Except.bind]
  rw [folded, foldl_groupStep_eq_groupRows]
  simp

/-- `GroupBy` gives one group per class of keys, in the order the keys first appear, with the
values of the group's items in order. -/
theorem evaluate_groupBy {source : Expr} {items : List Value} (listed : evaluate scope source = .ok (.list items))
    {keyParam valueParam : Param} {key value : Expr} {keyOf valueOf : Value → Value}
    (keyed : ∀ item ∈ items, evaluate ((keyParam.name, item) :: scope) key = .ok (keyOf item))
    (valued : ∀ item ∈ items, evaluate ((valueParam.name, item) :: scope) value = .ok (valueOf item)) :
    evaluate scope (.groupBy source keyParam key valueParam value) =
      .ok (.list ((groupRows keyOf items).map fun group => .group (keyOf group.1) (group.2.map valueOf))) :=
  evaluate_groupBy_of_itemsOf listed rfl keyed valued

/-- `Select` maps its body over the source's items. -/
theorem evaluate_select {source : Expr} {v : Value} (evaluated : evaluate scope source = .ok v) {α : Type}
    {xs : List α} {f : α → Value} (listed : itemsOf v = .ok (xs.map f)) {param : Param} {body : Expr}
    {g : α → Value} (each : ∀ x ∈ xs, evaluate ((param.name, f x) :: scope) body = .ok (g x)) :
    evaluate scope (.select source param body) = .ok (.list (xs.map g)) := by
  have mapped : (xs.map f).mapM (fun item => evaluate ((param.name, item) :: scope) body) = .ok (xs.map g) :=
    mapM_map_eq_ok f each
  simp only [evaluate, evaluated, listed, bind, Except.bind]
  rw [mapped]

theorem evaluate_toArray {source : Expr} {v : Value} {items : List Value} (evaluated : evaluate scope source = .ok v)
    (listed : itemsOf v = .ok items) : evaluate scope (.toArray source) = .ok (.list items) := by
  simp [evaluated, listed]

/-- A new collection holds the items that are not null. -/
theorem evaluate_newCollection {source : Expr} {v : Value} {items : List Value}
    (evaluated : evaluate scope source = .ok v) (listed : itemsOf v = .ok items) (kind : CollectionKind)
    (element : ValueType) :
    evaluate scope (.newCollection kind element source) = .ok (Value.collectionOf kind items) := by
  cases kind
  · simp only [evaluate, evaluated, listed, bind, Except.bind, Value.collectionOf]
    exact congrArg (fun items => Except.ok (Value.setOf items)) (List.filter_congr fun item _ => by cases item <;> rfl)
  · simp only [evaluate, evaluated, listed, bind, Except.bind, Value.collectionOf]
    exact congrArg (fun items => Except.ok (Value.list items)) (List.filter_congr fun item _ => by cases item <;> rfl)

/-- Constructor arguments pair with the record's members, as many as both have. -/
theorem evaluateFields_eq_ok {args : List Expr} {values : List Value}
    (evaluated : List.Forall₂ (fun arg v => evaluate scope arg = .ok v) args values) :
    ∀ (members : List (String × ValueType)),
      evaluateFields scope members args = .ok ((members.map Prod.fst).zip values) := by
  induction evaluated with
  | nil => intro members; cases members <;> simp
  | cons first _ ih =>
    intro members
    cases members with
    | nil => simp
    | cons member rest => simp [first, ih rest]

/-- Member bindings give their members' values in order. -/
theorem evaluateBindings_zip {args : List Expr} {values : List Value}
    (evaluated : List.Forall₂ (fun arg v => evaluate scope arg = .ok v) args values) :
    ∀ (members : List String), evaluateBindings scope (members.zip args) = .ok (members.zip values) := by
  induction evaluated with
  | nil => intro members; cases members <;> simp
  | cons first _ ih =>
    intro members
    cases members with
    | nil => simp
    | cons member rest => simp [first, ih rest]

end Equations

end FlatProjection.Eval
