import FlatProjection.Proofs.Flatten.Outcome
import FlatProjection.Proofs.Eval.Equations
/-
What the regrouping transform computes on rows that conform to the flat tuple.
-/

namespace FlatProjection.Flatten

open Eval

/-- The cell at a position of a flat row; null past its end. -/
def cellAt (cells : List Value) (position : Nat) : Value := cells[position]?.getD .null

/-- The cells at some positions of a flat row: the bare cell for one position, a tuple of them
for several. -/
def selectCells (positions : List Nat) (cells : List Value) : Value :=
  match positions with
  | [position] => cellAt cells position
  | _ => .tuple (positions.map (cellAt cells))

/-- The cells of a flat row, which comes as a tuple or as a plain list. -/
def rowCells : Value → List Value
  | .tuple cells | .list cells => cells
  | _ => []

/-- Whether a value is a flat row whose cells conform to the flat tuple's type. -/
def isFlatRow (ty : ValueType) : Value → Bool
  | .tuple cells | .list cells => (Value.tuple cells).conformsTo ty
  | _ => false

/-- A field's value in a group: a collection field collects its cells, nulls left out; any other
field is the first row's cell. -/
def groupFieldValue (policy : CollectionPolicy) (layout : Layout) (first : List Value)
    (members : List (List Value)) (field : Nat) : Value :=
  let position := layout.positionOfField field
  match layout.slotAt? position with
  | some slot => Value.collectionOf (policy.concreteKind slot.declared) (members.map (cellAt · position))
  | none => cellAt first position

/-- The value a shape builds from its field values. -/
def Shape.assemble (shape : Shape) (values : List Value) : Value :=
  match shape.kind with
  | .member => values.headD .null
  | .new ty => .record ty.name ((ty.members.map Prod.fst).zip values)
  | .memberInit ty ctorLength members =>
    .record ty.name ((ty.members.map Prod.fst).zip (values.take ctorLength) ++ members.zip (values.drop ctorLength))

/-- Flat rows regrouped: one projection per class of key cells, in the order the keys first
appear. -/
def regroup (policy : CollectionPolicy) (shape : Shape) (layout : Layout) (rows : List (List Value)) :
    List Value :=
  (groupRows (selectCells layout.keyPositions) rows).map fun group =>
    shape.assemble ((List.range shape.arity).map (groupFieldValue policy layout group.1 group.2))

/-! ### What a successful flattening is made of -/

/-- A first step that flattens found a narrow shape with one owner, and built its flat tuple
with the flat layout. -/
theorem preProcess_flattened {P E : Expr} {state : FlattenState} (pre : preProcess P = .ok ⟨E, some state⟩) :
    ∃ owner, Shape.classify? P = some state.shape ∧ state.shape.owners = [owner] ∧
      state.shape.arity ≤ maxProjectionFields ∧ state.layout = flatLayout state.shape owner ∧
      E = .mkTuple ((flatItems state.shape owner).map Expr.ty) (flatItems state.shape owner) := by
  cases shaped : Shape.classify? P with
  | none => simp [preProcess_of_classify_none shaped] at pre
  | some shape =>
    by_cases several : 1 < shape.owners.length
    · simp [preProcess_of_owners_several shaped several] at pre
    by_cases unowned : shape.owners = []
    · simp [preProcess_of_owners_nil shaped unowned] at pre
    obtain ⟨owner, single⟩ : ∃ owner, shape.owners = [owner] := by
      apply List.length_eq_one_iff.mp
      have := List.length_pos_iff.mpr unowned
      omega
    by_cases wide : maxProjectionFields < shape.arity
    · simp [preProcess_of_wide shaped single wide] at pre
    have narrow := Nat.le_of_not_lt wide
    rw [preProcess_of_owner shaped single narrow] at pre
    cases pre
    exact ⟨owner, rfl, single, narrow, rfl, rfl⟩

/-- A tuple that is built holds the given items. -/
theorem eq_mkTuple_of_tupleOf {items : List Expr} {tuple : Expr} (built : tupleOf items = .ok tuple) :
    tuple = .mkTuple (items.map Expr.ty) items := by
  unfold tupleOf Expr.tupleOf at built
  cases checked : checkArity (items.map Expr.ty).length tupleArityRange.1 tupleArityRange.2 <;>
    simp_all [Except.mapError, bind, Except.bind, pure, Except.pure]

/-- The item that reads a slot's cell off the input row, narrowed to the slot's element type. -/
def slotReader (input : Param) (slot : Slot) : Expr :=
  .convert (.rowIndex (.parameter input) slot.position) slot.element

/-- Items with the item at every slot's position replaced by the slot's reader. -/
def narrowSlots (input : Param) (slots : List Slot) (items : List Expr) : List Expr :=
  slots.foldl (fun items slot => items.set slot.position (slotReader input slot)) items

/-- The second step's flat tuple is the first step's items with every slot reading the input
row, and the transform is built for their types. -/
theorem postProcess_flattened (flattener : Flattener) {E F : Expr} {tys : List ValueType} {items : List Expr}
    {state : FlattenState} {T : Transform}
    (finished : flattener.postProcess ⟨E, some state⟩ (.mkTuple tys items) = .ok ⟨F, some T⟩) :
    (narrowSlots flattener.input state.layout.slots items).length = state.layout.arity ∧
      F = .mkTuple ((narrowSlots flattener.input state.layout.slots items).map Expr.ty)
        (narrowSlots flattener.input state.layout.slots items) ∧
      buildTransform state.shape state.layout flattener.policy flattener.rowsParameter
        ((narrowSlots flattener.input state.layout.slots items).map Expr.ty) = .ok T := by
  unfold Flattener.postProcess at finished
  dsimp only at finished
  by_cases counted : items.length = state.layout.arity
  swap
  · simp [counted, throw, throwThe, MonadExceptOf.throw, bind, Except.bind] at finished
  simp only [counted, bne_self_eq_false, Bool.false_eq_true, if_false] at finished
  have kept : (narrowSlots flattener.input state.layout.slots items).length = state.layout.arity := by
    rw [narrowSlots, length_foldl_set, counted]
  obtain ⟨tuple, tupled, rest⟩ := Except.bind_eq_ok.mp finished
  obtain ⟨transform, built, returned⟩ := Except.bind_eq_ok.mp rest
  cases returned
  exact ⟨kept, eq_mkTuple_of_tupleOf tupled, built⟩

/-- A built transform casts the rows to the row tuple, groups them by the key selector with
the value selector, and rebuilds the projection from each group. -/
theorem buildTransform_built {shape : Shape} {layout : Layout} {policy : CollectionPolicy} {rowsName : String}
    {rowType : List ValueType} {T : Transform}
    (built : buildTransform shape layout policy rowsName rowType = .ok T) :
    rowType.length = layout.arity ∧ ∃ keySelector valueSelector result,
      selectPositions ⟨"item", .tuple rowType⟩ layout.keyPositions = .ok keySelector ∧
      selectPositions ⟨"item", .tuple rowType⟩ layout.injectedIndices = .ok valueSelector ∧
      resultSelector shape layout policy ⟨"g", .grouping keySelector.ty valueSelector.ty⟩ layout.keyPositions =
        .ok result ∧
      T = ⟨⟨rowsName, .sequence .object⟩, .toArray (.select
        (.groupBy (.cast (.parameter ⟨rowsName, .sequence .object⟩) (.tuple rowType))
          ⟨"item", .tuple rowType⟩ keySelector ⟨"item", .tuple rowType⟩ valueSelector)
        ⟨"g", .grouping keySelector.ty valueSelector.ty⟩ result)⟩ := by
  unfold buildTransform at built
  by_cases counted : rowType.length = layout.arity
  swap
  · simp [counted, throw, throwThe, MonadExceptOf.throw, bind, Except.bind] at built
  by_cases keyless : layout.keyPositions.isEmpty
  · simp [counted, keyless, throw, throwThe, MonadExceptOf.throw, bind, Except.bind] at built
  simp only [counted, bne_self_eq_false, Bool.false_eq_true, if_false, keyless] at built
  obtain ⟨keySelector, keyed, built⟩ := Except.bind_eq_ok.mp built
  obtain ⟨valueSelector, valued, built⟩ := Except.bind_eq_ok.mp built
  obtain ⟨result, resulted, returned⟩ := Except.bind_eq_ok.mp built
  cases returned
  exact ⟨counted, keySelector, valueSelector, result, keyed, valued, resulted, rfl⟩

/-! ### Reading flat rows -/

theorem itemsConform_length : ∀ {values : List Value} {tys : List ValueType},
    Value.itemsConform values tys = true → values.length = tys.length
  | [], [], _ => rfl
  | _ :: values, _ :: tys, conform => by
    simp only [Value.itemsConform, Bool.and_eq_true] at conform
    simp [itemsConform_length conform.2]
  | [], _ :: _, conform | _ :: _, [], conform => by simp [Value.itemsConform] at conform

/-- A flat row has one cell per item of the row tuple. -/
theorem rowCells_length {rowType : List ValueType} {row : Value} (flat : isFlatRow (.tuple rowType) row = true) :
    (rowCells row).length = rowType.length := by
  cases row <;> simp only [isFlatRow, Value.conformsTo, Bool.false_eq_true] at flat <;>
    exact itemsConform_length flat

/-- The cast reads a flat row as the tuple of its cells. -/
theorem castItem_of_isFlatRow {rowType : List ValueType} {row : Value} (flat : isFlatRow (.tuple rowType) row = true) :
    castItem (.tuple rowType) row = .ok (.tuple (rowCells row)) := by
  cases row <;> simp_all [isFlatRow, castItem, rowCells]

theorem cellAt_eq_getElem {cells : List Value} {position : Nat} (inside : position < cells.length) :
    cellAt cells position = cells[position] := by
  simp [cellAt, inside]

/-- Several positions, or none, select a tuple of cells. -/
theorem selectCells_of_ne_singleton {positions : List Nat} (several : ∀ p, positions = [p] → False)
    (cells : List Value) : selectCells positions cells = .tuple (positions.map (cellAt cells)) := by
  match positions, several with
  | [p], several => exact absurd rfl (several p)
  | [], _ => rfl
  | _ :: _ :: _, _ => rfl

section Selectors

variable {scope : Scope} {item : Param} {cells : List Value}

/-- A position selector reads the selected cells of the row it is given. -/
theorem evaluate_selectPositions {positions : List Nat} {selector : Expr}
    (built : selectPositions item positions = .ok selector) (inside : ∀ p ∈ positions, p < cells.length) :
    evaluate ((item.name, .tuple cells) :: scope) selector = .ok (selectCells positions cells) := by
  have reads : ∀ p ∈ positions, evaluate ((item.name, .tuple cells) :: scope) ((Expr.parameter item).item p) =
      .ok (cellAt cells p) := by
    intro p member
    rw [evaluate_item (by rw [evaluate_parameter, lookup_cons_self]) (inside p member),
      cellAt_eq_getElem (inside p member)]
  unfold selectPositions at built
  split at built
  · rename_i position
    cases built
    exact reads position (List.mem_singleton_self position)
  · rename_i several
    rw [eq_mkTuple_of_tupleOf built, evaluate_mkTuple (evaluateList_map reads), selectCells_of_ne_singleton several]

end Selectors

/-! ### The projection rebuilt from a group -/

section Group

variable {scope : Scope} {group : Param}

/-- A key field reads its component of the group's key: the key itself when the key has one
position, its item at the field's rank otherwise. Either way it is the first row's cell. -/
theorem evaluate_keyComponent {keys : List Nat} {first : List Value} {values : List Value} {position rank : Nat}
    (found : keys.findIdx? (· == position) = some rank) :
    evaluate ((group.name, .group (selectCells keys first) values) :: scope)
        (if keys.length == 1 then Expr.groupKey (.parameter group) else (Expr.groupKey (.parameter group)).item rank) =
      .ok (cellAt first position) := by
  obtain ⟨within, equal, -⟩ := List.findIdx?_eq_some_iff_getElem.mp found
  have atRank : keys[rank] = position := by simpa using equal
  have keyed : evaluate ((group.name, .group (selectCells keys first) values) :: scope)
      (.groupKey (.parameter group)) = .ok (selectCells keys first) :=
    evaluate_groupKey (by rw [evaluate_parameter, lookup_cons_self])
  by_cases single : keys.length = 1
  · obtain ⟨key, rfl⟩ := List.length_eq_one_iff.mp single
    have origin : rank = 0 := by simp only [List.length_singleton] at within; omega
    subst origin
    simp only [List.getElem_cons_zero] at atRank
    subst atRank
    simpa [selectCells] using keyed
  · rw [selectCells_of_ne_singleton (fun p listed => single (by simp [listed]))] at keyed ⊢
    have several : (keys.length == 1) = false := by simpa using single
    rw [several, if_neg Bool.false_ne_true, evaluate_item keyed (by simpa using within), List.getElem_map, atRank]

/-- The values a collection field reads from a group list the slot's cell of every row. -/
theorem evaluate_slotValues {layout : Layout} {key : Value} {members : List (List Value)} {slot : Slot}
    {position : Nat} (slotted : layout.slotAt? position = some slot) (element : ValueType) :
    ∃ listing, evaluate ((group.name, .group key (members.map (selectCells layout.injectedIndices))) :: scope)
        (if layout.slots.length == 1 then Expr.parameter group
          else .select (.parameter group) ⟨"v", element⟩
            ((Expr.parameter ⟨"v", element⟩).item ((layout.slots.findIdx? (·.position == position)).getD 0))) =
        .ok listing ∧ itemsOf listing = .ok (members.map (cellAt · position)) := by
  obtain ⟨sits, rank, within, atRank, ranked⟩ := slotAt?_rank slotted
  have grouped : evaluate ((group.name, .group key (members.map (selectCells layout.injectedIndices))) :: scope)
      (.parameter group) = .ok (.group key (members.map (selectCells layout.injectedIndices))) := by
    rw [evaluate_parameter, lookup_cons_self]
  by_cases single : layout.slots.length = 1
  · -- one collection: the group's values are the slot's cells themselves
    refine ⟨_, by rw [if_pos (by simp [single])]; exact grouped, ?_⟩
    simp [itemsOf, injectedIndices_of_single single slotted, selectCells]
  · -- several collections: each value is a tuple, read at the slot's rank
    rw [if_neg (by simpa using single), ranked, Option.getD_some]
    refine ⟨_, evaluate_select grouped rfl fun cells member => ?_, rfl⟩
    rw [selectCells_of_ne_singleton (injectedIndices_ne_singleton single)]
    have ranks : rank < (layout.injectedIndices.map (cellAt cells)).length := by
      simpa [Layout.injectedIndices] using within
    rw [evaluate_item (by rw [evaluate_parameter, lookup_cons_self]) ranks]
    simp [Layout.injectedIndices, atRank, sits]

/-- A collection field reads its cell from every row of the group; nulls are left out as the
collection is built. -/
theorem evaluate_slotCollection {layout : Layout} {key : Value} {members : List (List Value)} {slot : Slot}
    {position : Nat} (slotted : layout.slotAt? position = some slot) (element : ValueType)
    (kind : CollectionKind) (elementType : ValueType) :
    evaluate ((group.name, .group key (members.map (selectCells layout.injectedIndices))) :: scope)
        (.newCollection kind elementType (.toArray (if layout.slots.length == 1 then Expr.parameter group
          else .select (.parameter group) ⟨"v", element⟩
            ((Expr.parameter ⟨"v", element⟩).item ((layout.slots.findIdx? (·.position == position)).getD 0))))) =
      .ok (Value.collectionOf kind (members.map (cellAt · position))) := by
  obtain ⟨listing, listed, items⟩ := evaluate_slotValues slotted element
  rw [evaluate_newCollection (evaluate_toArray listed items) rfl]

end Group

/-- A rebuilt projection evaluates to the shape assembled from its fields' values. -/
theorem evaluate_rebuild {shape : Shape} {fields : List Expr} {rebuilt : Expr}
    (built : shape.rebuild fields = .ok rebuilt) {scope : Scope} {values : List Value}
    (evaluated : List.Forall₂ (fun field v => evaluate scope field = .ok v) fields values) :
    evaluate scope rebuilt = .ok (shape.assemble values) := by
  unfold Shape.rebuild at built
  split at built
  · cases built
  unfold Shape.assemble
  cases kinded : shape.kind with
  | member =>
    simp only [kinded] at built
    split at built
    · cases built
      cases evaluated with
      | cons head _ => simpa using head
    · cases built
  | new ty =>
    simp only [kinded, Except.ok.injEq] at built
    subst built
    simp [evaluate, evaluateFields_eq_ok evaluated, bind, Except.bind]
  | memberInit ty ctorLength members =>
    simp only [kinded, Except.ok.injEq] at built
    subst built
    simp [evaluate, evaluateFields_eq_ok (List.forall₂_take ctorLength evaluated),
      evaluateBindings_zip (List.forall₂_drop ctorLength evaluated), bind, Except.bind]

/-- The result selector evaluates, on a group, to the projection assembled from the group's
field values. -/
theorem evaluate_resultSelector {shape : Shape} {layout : Layout} {policy : CollectionPolicy} {group : Param}
    {result : Expr} (built : resultSelector shape layout policy group layout.keyPositions = .ok result)
    (scope : Scope) (first : List Value) (members : List (List Value)) :
    evaluate ((group.name, .group (selectCells layout.keyPositions first)
        (members.map (selectCells layout.injectedIndices))) :: scope) result =
      .ok (shape.assemble ((List.range shape.arity).map (groupFieldValue policy layout first members))) := by
  unfold resultSelector at built
  split at built
  · rename_i element _
    obtain ⟨fields, mapped, rebuilt⟩ := Except.bind_eq_ok.mp built
    apply evaluate_rebuild rebuilt
    rw [mapM_eq_ok_iff_forall₂] at mapped
    rw [List.forall₂_map_right_iff]
    apply List.Forall₂.flip
    refine mapped.imp fun field e step => ?_
    show evaluate _ e = .ok (groupFieldValue policy layout first members field)
    unfold groupFieldValue
    dsimp only at step ⊢
    cases slotted : layout.slotAt? (layout.positionOfField field) with
    | some slot =>
      simp only [slotted, pure, Except.pure, Except.ok.injEq] at step
      subst step
      exact evaluate_slotCollection slotted element _ _
    | none =>
      simp only [slotted] at step
      cases found : layout.keyPositions.findIdx? (· == layout.positionOfField field) with
      | some rank =>
        simp only [found, pure, Except.pure, Except.ok.injEq] at step
        subst step
        exact evaluate_keyComponent found
      | none => simp [found, throw, throwThe, MonadExceptOf.throw] at step
  · cases built

/-- The regrouping transform evaluates, on rows that conform to the row tuple, to the reference
regrouping of their cells. -/
theorem applyProgram_transform {shape : Shape} {layout : Layout} {policy : CollectionPolicy} {rowsName : String}
    {rowType : List ValueType} {T : Transform} (built : buildTransform shape layout policy rowsName rowType = .ok T)
    (slotsInside : ∀ slot ∈ layout.slots, slot.position < layout.arity) {rows : List Value}
    (flatRows : ∀ row ∈ rows, isFlatRow (.tuple rowType) row = true) :
    applyProgram T.rows.name T.body rows = .ok (regroup policy shape layout (rows.map rowCells)) := by
  obtain ⟨counted, keySelector, valueSelector, result, keyed, valued, resulted, rfl⟩ := buildTransform_built built
  have lengths : ∀ cells ∈ rows.map rowCells, cells.length = layout.arity := by
    intro cells member
    obtain ⟨row, listed, rfl⟩ := List.mem_map.mp member
    rw [rowCells_length (flatRows row listed), counted]
  have cast : evaluate [(rowsName, .list rows)]
      (.cast (.parameter ⟨rowsName, .sequence .object⟩) (.tuple rowType)) =
      .ok (.list ((rows.map rowCells).map Value.tuple)) := by
    rw [List.map_map]
    exact evaluate_cast (by rw [evaluate_parameter, lookup_cons_self])
      fun row member => castItem_of_isFlatRow (flatRows row member)
  have selects : ∀ {positions : List Nat} {selector : Expr},
      selectPositions ⟨"item", .tuple rowType⟩ positions = .ok selector → (∀ p ∈ positions, p < layout.arity) →
      ∀ item ∈ (rows.map rowCells).map Value.tuple,
        evaluate (("item", item) :: [(rowsName, .list rows)]) selector = .ok (selectCells positions (rowCells item)) := by
    intro positions selector selecting inside item member
    obtain ⟨cells, listed, rfl⟩ := List.mem_map.mp member
    exact evaluate_selectPositions selecting fun p within => (lengths cells listed).symm ▸ inside p within
  have keysRead := selects keyed fun p key => (mem_keyPositions.mp key).1
  have valuesRead := selects valued fun p slotted => by
    obtain ⟨slot, sits, rfl⟩ := List.mem_map.mp slotted
    exact slotsInside slot sits
  have grouped : evaluate [(rowsName, .list rows)]
      (.groupBy (.cast (.parameter ⟨rowsName, .sequence .object⟩) (.tuple rowType)) ⟨"item", .tuple rowType⟩
        keySelector ⟨"item", .tuple rowType⟩ valueSelector) = _ :=
    evaluate_groupBy cast keysRead valuesRead
  have regrouped : (groupRows (fun item => selectCells layout.keyPositions (rowCells item))
        ((rows.map rowCells).map Value.tuple)).map
        (fun group => Value.group (selectCells layout.keyPositions (rowCells group.1))
          (group.2.map fun item => selectCells layout.injectedIndices (rowCells item))) =
      (groupRows (selectCells layout.keyPositions) (rows.map rowCells)).map
        (fun group => Value.group (selectCells layout.keyPositions group.1)
          (group.2.map (selectCells layout.injectedIndices))) := by
    rw [groupRows_map, List.map_map]
    simp only [Function.comp_def, List.map_map, rowCells]
  rw [regrouped] at grouped
  have selected := evaluate_select grouped rfl fun group _ => evaluate_resultSelector resulted _ group.1 group.2
  simp [applyProgram, evaluate_toArray selected rfl, regroup, bind, Except.bind]

/-- Every slot of the flat layout lies inside the flat tuple. -/
theorem flatLayout_slots_inside {shape : Shape} {owner : SourceRef} :
    ∀ slot ∈ (flatLayout shape owner).slots, slot.position < (flatLayout shape owner).arity := by
  intro slot member
  obtain ⟨field, inside, -, rfl⟩ := mem_flatLayout_slots.mp member
  rw [flatLayout_arity]
  exact Nat.add_lt_add_right inside _

/-- The transform of a flattened projection regroups every list of flat rows that conform to the
flat tuple's type exactly as `regroup` says, with the layout the flattening chose. -/
theorem applyProgram_flattened_eq_regroup {flattener : Flattener} {P E F : Expr} {T : Transform} {shape : Shape}
    {layout : Layout} (pre : preProcess P = .ok ⟨E, some ⟨shape, layout⟩⟩)
    (flat : flattener.flatten P = .ok ⟨F, some T⟩) {rows : List Value}
    (flatRows : ∀ row ∈ rows, isFlatRow F.ty row = true) :
    applyProgram T.rows.name T.body rows = .ok (regroup flattener.policy shape layout (rows.map rowCells)) := by
  obtain ⟨owner, -, -, -, laid, rfl⟩ := preProcess_flattened pre
  dsimp only at laid
  subst laid
  have finished : flattener.postProcess
      ⟨.mkTuple ((flatItems shape owner).map Expr.ty) (flatItems shape owner), some ⟨shape, flatLayout shape owner⟩⟩
      (.mkTuple ((flatItems shape owner).map Expr.ty) (flatItems shape owner)) = .ok ⟨F, some T⟩ := by
    simpa [Flattener.flatten, pre, bind, Except.bind] using flat
  obtain ⟨-, rfl, built⟩ := postProcess_flattened flattener finished
  exact applyProgram_transform built flatLayout_slots_inside flatRows

theorem applyProgram_flattened_orders :
    let orders : Expr := .new ⟨none, [("Name", .text), ("Orders", .collection .list .int)]⟩
      [.memberAccess (.querySource ⟨1, "c", "Customer"⟩) "Name" .text,
       .memberAccess (.querySource ⟨1, "c", "Customer"⟩) "Orders" (.collection .list .int)]
    let flat : Expr := .mkTuple [.entity "Customer", .text, .int]
      [.querySource ⟨1, "c", "Customer"⟩, .memberAccess (.querySource ⟨1, "c", "Customer"⟩) "Name" .text,
       .convert (.rowIndex (.parameter ⟨"input", .object⟩) 2) .int]
    let rows : List Value := [.list [.record none [("Id", .int 1)], .text "Ann", .int 10],
      .list [.record none [("Id", .int 1)], .text "Ann", .int 11],
      .list [.record none [("Id", .int 2)], .text "Bob", .null]]
    ∃ (E : Expr) (T : Transform) (shape : Shape) (layout : Layout),
      preProcess orders = .ok ⟨E, some ⟨shape, layout⟩⟩ ∧
      Flattener.flatten ⟨⟨"input", .object⟩, "rows", .declared⟩ orders = .ok ⟨flat, some T⟩ ∧
      (∀ row ∈ rows, isFlatRow flat.ty row = true) ∧
      applyProgram T.rows.name T.body rows =
        .ok [.record none [("Name", .text "Ann"), ("Orders", .list [.int 10, .int 11])],
          .record none [("Name", .text "Bob"), ("Orders", .list [])]] := by
  intro orders flat rows
  have pre : preProcess orders = .ok ⟨?E, some ⟨?shape, ?layout⟩⟩ := by with_unfolding_all rfl
  have flattened : Flattener.flatten ⟨⟨"input", .object⟩, "rows", .declared⟩ orders = .ok ⟨flat, some ?T⟩ := by
    with_unfolding_all rfl
  have flatRows : ∀ row ∈ rows, isFlatRow flat.ty row = true := by decide
  refine ⟨_, _, _, _, pre, flattened, flatRows, ?_⟩
  rw [applyProgram_flattened_eq_regroup pre flattened flatRows]
  with_unfolding_all rfl

end FlatProjection.Flatten
