import FlatProjection.Proofs.Flatten.FlatTuple
/-
The regrouping transform is well typed.
-/

namespace FlatProjection

namespace ValueType

mutual

/-- Structural equality of types is equality. -/
theorem beq_iff_eq : ∀ (a b : ValueType), beq a b = true ↔ a = b
  | .int, b | .float, b | .bool, b | .text, b | .object, b | .entity _, b => by cases b <;> simp [beq]
  | .collection kind element, b => by
    cases b with
    | collection kind' element' => simp [beq, beq_iff_eq element element']
    | _ => simp [beq]
  | .sequence element, b => by
    cases b with
    | sequence element' => simp [beq, beq_iff_eq element element']
    | _ => simp [beq]
  | .record name members, b => by
    cases b with
    | record name' members' => simp [beq, membersBeq_iff_eq members members']
    | _ => simp [beq]
  | .tuple items, b => by
    cases b with
    | tuple items' => simp [beq, itemsBeq_iff_eq items items']
    | _ => simp [beq]
  | .grouping key element, b => by
    cases b with
    | grouping key' element' => simp [beq, beq_iff_eq key key', beq_iff_eq element element']
    | _ => simp [beq]

theorem itemsBeq_iff_eq : ∀ (as bs : List ValueType), itemsBeq as bs = true ↔ as = bs
  | [], bs => by cases bs <;> simp [itemsBeq]
  | a :: as, bs => by
    cases bs with
    | nil => simp [itemsBeq]
    | cons b bs => simp [itemsBeq, beq_iff_eq a b, itemsBeq_iff_eq as bs]

theorem membersBeq_iff_eq : ∀ (as bs : List (String × ValueType)), membersBeq as bs = true ↔ as = bs
  | [], bs => by cases bs <;> simp [membersBeq]
  | (n, a) :: as, bs => by
    cases bs with
    | nil => simp [membersBeq]
    | cons b bs =>
      obtain ⟨m, b⟩ := b
      simp [membersBeq, beq_iff_eq a b, membersBeq_iff_eq as bs, and_assoc]

end

@[simp] theorem beq_eq_true_iff {a b : ValueType} : (a == b) = true ↔ a = b := beq_iff_eq a b

@[simp] theorem elementType?_collection (kind : CollectionKind) (element : ValueType) :
    (collection kind element).elementType? = some element := rfl

@[simp] theorem elementType?_sequence (element : ValueType) : (sequence element).elementType? = some element := rfl

@[simp] theorem elementType?_grouping (key element : ValueType) : (grouping key element).elementType? = some element :=
  rfl

/-- Whether a type is a grouping. -/
def isGrouping : ValueType → Bool
  | .grouping .. => true
  | _ => false

/-- Whether a type has elements of type `element`. -/
def elementsAre (ty element : ValueType) : Bool :=
  match ty.elementType? with
  | some found => found == element
  | none => false

@[simp] theorem elementsAre_iff {ty element : ValueType} : ty.elementsAre element = true ↔ ty.elementType? = some element := by
  unfold elementsAre
  cases ty.elementType? <;> simp

end ValueType

namespace Expr

mutual

/-- Whether an expression is typed consistently in a scope of typed parameters, innermost first. -/
def typedIn (scope : List Param) : Expr → Bool
  | .querySource _ | .literal _ => true
  | .parameter p =>
    match scope.find? (·.name == p.name) with
    | some bound => bound.ty == p.ty
    | none => false
  | .memberAccess target _ _ | .convert target _ | .rowIndex target _ => typedIn scope target
  | .new _ args => typedListIn scope args
  | .memberInit _ ctorArgs bindings => typedListIn scope ctorArgs && typedBindingsIn scope bindings
  | .tupleItem tuple index ty =>
    typedIn scope tuple &&
      match tuple.ty with
      | .tuple items => items[index]? == some ty
      | _ => false
  | .mkTuple tys items => ValueType.itemsBeq tys (items.map Expr.ty) && typedListIn scope items
  | .groupKey group => typedIn scope group && group.ty.isGrouping
  | .cast source _ => typedIn scope source && source.ty.elementType?.isSome
  | .groupBy source keyParam key valueParam value =>
    typedIn scope source && source.ty.elementsAre keyParam.ty && source.ty.elementsAre valueParam.ty &&
      typedIn (keyParam :: scope) key && typedIn (valueParam :: scope) value
  | .select source p body => typedIn scope source && source.ty.elementsAre p.ty && typedIn (p :: scope) body
  | .toArray source => typedIn scope source && source.ty.elementType?.isSome
  | .newCollection _ element source => typedIn scope source && source.ty.elementsAre element

/-- Whether every expression of a list is typed consistently in the scope. -/
def typedListIn (scope : List Param) : List Expr → Bool
  | [] => true
  | e :: rest => typedIn scope e && typedListIn scope rest

/-- Whether every bound expression is typed consistently in the scope. -/
def typedBindingsIn (scope : List Param) : List (String × Expr) → Bool
  | [] => true
  | (_, e) :: rest => typedIn scope e && typedBindingsIn scope rest

end

section Typed

variable {scope : List Param}

theorem typedListIn_iff {items : List Expr} : typedListIn scope items = true ↔ ∀ e ∈ items, typedIn scope e = true := by
  induction items with
  | nil => simp [typedListIn]
  | cons e rest ih => simp [typedListIn, ih]

theorem typedBindingsIn_iff {bindings : List (String × Expr)} :
    typedBindingsIn scope bindings = true ↔ ∀ binding ∈ bindings, typedIn scope binding.2 = true := by
  induction bindings with
  | nil => simp [typedBindingsIn]
  | cons binding rest ih =>
    obtain ⟨member, e⟩ := binding
    simp [typedBindingsIn, ih]

/-- The innermost parameter is read at its own type. -/
theorem typedIn_parameter_self (p : Param) (scope : List Param) : typedIn (p :: scope) (.parameter p) = true := by
  simp [typedIn]

/-- An item inside a well-typed tuple is well typed, at the tuple's type for that item. -/
theorem typedIn_item {tuple : Expr} {items : List ValueType} {index : Nat} (typed : typedIn scope tuple = true)
    (tupled : tuple.ty = .tuple items) (inside : index < items.length) :
    typedIn scope (tuple.item index) = true ∧ (tuple.item index).ty = items[index] := by
  simp [Expr.item, typedIn, typed, tupled, inside, Expr.ty]

/-- A tuple typed by its items is well typed when its items are. -/
theorem typedIn_mkTuple {items : List Expr} :
    typedIn scope (.mkTuple (items.map Expr.ty) items) = true ↔ ∀ e ∈ items, typedIn scope e = true := by
  simp [typedIn, (ValueType.itemsBeq_iff_eq _ _).mpr rfl, typedListIn_iff]

end Typed

end Expr

namespace Flatten

open FlatProjection.Expr

/-- Every new collection inside `e` builds elements of the type of one of the slots. -/
def CollectsSlotElements (slots : List Slot) (e : Expr) : Prop :=
  ∀ node ∈ e.subterms, ∀ kind element source, node = .newCollection kind element source →
    ∃ slot ∈ slots, element = slot.element

/-- The type a position selector reads off a row of type `tys`: the item itself for one
position, the tuple of the items for several. -/
def selectedType (tys : List ValueType) (positions : List Nat) : ValueType :=
  match positions with
  | [position] => tys[position]?.getD .object
  | _ => .tuple (positions.map fun p => tys[p]?.getD .object)

theorem selectedType_of_ne_singleton {positions : List Nat} (several : ∀ p, positions = [p] → False)
    (tys : List ValueType) : selectedType tys positions = .tuple (positions.map fun p => tys[p]?.getD .object) := by
  match positions, several with
  | [p], several => exact absurd rfl (several p)
  | [], _ => rfl
  | _ :: _ :: _, _ => rfl

/-- A position selector over a row parameter of tuple type reads the row's items at their types. -/
theorem selectPositions_typed {item : Param} {tys : List ValueType} {positions : List Nat} {selector : Expr}
    (tupled : item.ty = .tuple tys) (inside : ∀ p ∈ positions, p < tys.length)
    (built : selectPositions item positions = .ok selector) (scope : List Param) :
    selector.typedIn (item :: scope) = true ∧ selector.ty = selectedType tys positions ∧
      ∀ node ∈ selector.subterms, ∀ kind element source, node ≠ .newCollection kind element source := by
  have reads : ∀ p ∈ positions, ((Expr.parameter item).item p).typedIn (item :: scope) = true ∧
      ((Expr.parameter item).item p).ty = tys[p]?.getD .object := by
    intro p member
    have read := typedIn_item (typedIn_parameter_self item scope) tupled (inside p member)
    exact ⟨read.1, by rw [read.2, List.getElem?_eq_getElem (inside p member), Option.getD_some]⟩
  have plain : ∀ p, ∀ node ∈ ((Expr.parameter item).item p).subterms, ∀ kind element source,
      node ≠ .newCollection kind element source := by
    intro p node inside kind element source same
    subst same
    simp [subterms, Expr.item] at inside
  unfold selectPositions at built
  split at built
  · rename_i position
    cases built
    exact ⟨(reads position (List.mem_singleton_self position)).1, (reads position (List.mem_singleton_self position)).2,
      plain position⟩
  · rename_i several
    rw [eq_mkTuple_of_tupleOf built, typedIn_mkTuple, selectedType_of_ne_singleton several, Expr.ty, List.map_map]
    refine ⟨fun e member => ?_, ?_, ?_⟩
    · obtain ⟨p, listed, rfl⟩ := List.mem_map.mp member
      exact (reads p listed).1
    · congr 1
      exact List.map_congr_left fun p listed => (reads p listed).2
    · intro node inside kind element source same
      rcases List.mem_cons.mp inside with rfl | deeper
      · cases same
      · obtain ⟨arg, member, within⟩ := exists_of_mem_subtermsList deeper
        obtain ⟨p, -, rfl⟩ := List.mem_map.mp member
        exact plain p node within kind element source same

/-- A projection rebuilt from well-typed fields is well typed, and builds only the collections
its fields build. -/
theorem rebuild_typed {shape : Shape} {fields : List Expr} {rebuilt : Expr} (built : shape.rebuild fields = .ok rebuilt)
    {scope : List Param} (typed : ∀ field ∈ fields, field.typedIn scope = true) {slots : List Slot}
    (collects : ∀ field ∈ fields, CollectsSlotElements slots field) :
    rebuilt.typedIn scope = true ∧ CollectsSlotElements slots rebuilt := by
  unfold Shape.rebuild at built
  split at built
  · cases built
  cases kinded : shape.kind with
  | member =>
    simp only [kinded] at built
    split at built
    · cases built
      exact ⟨typed _ List.mem_cons_self, collects _ List.mem_cons_self⟩
    · cases built
  | new ty =>
    simp only [kinded, Except.ok.injEq] at built
    subst built
    refine ⟨typedListIn_iff.mpr typed, ?_⟩
    intro node found kind element source same
    rcases List.mem_cons.mp found with rfl | deeper
    · cases same
    · obtain ⟨field, member, inside⟩ := exists_of_mem_subtermsList deeper
      exact collects field member node inside kind element source same
  | memberInit ty ctorLength members =>
    simp only [kinded, Except.ok.injEq] at built
    subst built
    have bound : ∀ binding ∈ members.zip (fields.drop ctorLength), binding.2 ∈ fields :=
      fun binding member => List.mem_of_mem_drop (List.of_mem_zip member).2
    refine ⟨by simp [typedIn, typedListIn_iff.mpr fun e member => typed e (List.mem_of_mem_take member),
      typedBindingsIn_iff.mpr fun binding member => typed _ (bound binding member)], ?_⟩
    intro node found kind element source same
    rcases List.mem_cons.mp found with rfl | deeper
    · cases same
    rcases List.mem_append.mp deeper with ctor | binding
    · obtain ⟨field, member, inside⟩ := exists_of_mem_subtermsList ctor
      exact collects field (List.mem_of_mem_take member) node inside kind element source same
    · obtain ⟨pair, member, inside⟩ := exists_of_mem_subtermsBindings binding
      exact collects pair.2 (bound pair member) node inside kind element source same

/-- A new collection of a slot's element type, over values of that element type that build no
collection, is typed when its values are, and builds only that slot's elements. -/
theorem newCollection_collects {slots : List Slot} {slot : Slot} (listed : slot ∈ slots) {scope : List Param}
    {values : Expr} (typed : values.typedIn scope = true) (typedElements : values.ty.elementType? = some slot.element)
    (plain : ∀ node ∈ values.subterms, ∀ kind e source, node ≠ .newCollection kind e source) (kind : CollectionKind) :
    (Expr.newCollection kind slot.element (.toArray values)).typedIn scope = true ∧
      CollectsSlotElements slots (.newCollection kind slot.element (.toArray values)) := by
  refine ⟨by simp [typedIn, typed, typedElements, Expr.ty], ?_⟩
  intro node found kind' e source same
  simp only [subterms, List.mem_cons] at found
  rcases found with rfl | rfl | deeper
  · cases same
    exact ⟨slot, listed, rfl⟩
  · cases same
  · exact absurd same (plain node deeper kind' e source)

section Group

variable {layout : Layout} {group : Param} {tys : List ValueType}
  (grouped : group.ty = .grouping (selectedType tys layout.keyPositions) (selectedType tys layout.injectedIndices))
include grouped

/-- The values a slot's collection is built from are typed at the slot's element type. -/
theorem slotValues_typed {position : Nat} {slot : Slot} (sorted : layout.slots.Pairwise (·.position < ·.position))
    (slotTyped : ∀ slot ∈ layout.slots, tys[slot.position]? = some slot.element)
    (slotted : layout.slotAt? position = some slot) (scope : List Param) :
    let values := if layout.slots.length == 1 then Expr.parameter group else
      let v : Param := ⟨"v", selectedType tys layout.injectedIndices⟩
      .select (.parameter group) v ((Expr.parameter v).item ((layout.slots.findIdx? (·.position == position)).getD 0))
    values.typedIn (group :: scope) = true ∧ values.ty.elementType? = some slot.element ∧
      ∀ node ∈ values.subterms, ∀ kind e source, node ≠ .newCollection kind e source := by
  intro values
  obtain ⟨listed, sits⟩ := (find?_position_eq_some sorted).mp slotted
  have element : tys[slot.position]?.getD .object = slot.element := by rw [slotTyped slot listed, Option.getD_some]
  by_cases single : layout.slots.length = 1
  · -- one slot: the group's values are the slot's cells
    have selected : layout.injectedIndices = [slot.position] := by rw [injectedIndices_of_single single slotted, sits]
    simp only [values, single, BEq.rfl, if_true]
    refine ⟨typedIn_parameter_self group scope, ?_, ?_⟩
    · simp [Expr.ty, grouped, selected, selectedType, element]
    · intro node inside kind e source same
      subst same
      simp [subterms] at inside
  · -- several slots: each value is a tuple of cells, read at the slot's rank
    obtain ⟨-, rank, within, atRank, ranked⟩ := slotAt?_rank slotted
    have valuesType : selectedType tys layout.injectedIndices =
        .tuple (layout.injectedIndices.map fun p => tys[p]?.getD .object) :=
      selectedType_of_ne_singleton (injectedIndices_ne_singleton single) tys
    have read := typedIn_item (typedIn_parameter_self ⟨"v", selectedType tys layout.injectedIndices⟩ (group :: scope))
      valuesType (by simpa [Layout.injectedIndices] using within)
    have atSlot : ((Expr.parameter ⟨"v", selectedType tys layout.injectedIndices⟩).item rank).ty = slot.element := by
      rw [read.2]
      simp [Layout.injectedIndices, atRank, element]
    simp only [values, beq_iff_eq, single, if_false, ranked, Option.getD_some]
    refine ⟨?_, ?_, ?_⟩
    · simp [typedIn, Expr.ty, grouped, read.1]
    · simp [Expr.ty, atSlot]
    · intro node inside kind e source same
      subst same
      simp [subterms, Expr.item] at inside

/-- A field read off the group's key, the whole key for one key position and its item at the
position's rank otherwise, is typed and builds no collection. -/
theorem keyField_typed {rank : Nat} (within : rank < layout.keyPositions.length) (scope : List Param)
    (slots : List Slot) :
    let field := if layout.keyPositions.length == 1 then Expr.groupKey (.parameter group)
      else (Expr.groupKey (.parameter group)).item rank
    field.typedIn (group :: scope) = true ∧ CollectsSlotElements slots field := by
  intro field
  have keyTyped : (Expr.groupKey (.parameter group)).typedIn (group :: scope) = true := by
    simp [typedIn, Expr.ty, grouped, ValueType.isGrouping]
  have keyCollects : ∀ e, e = Expr.groupKey (.parameter group) ∨ e = (Expr.groupKey (.parameter group)).item rank →
      CollectsSlotElements slots e := by
    rintro e (rfl | rfl) node inside kind element source rfl <;> simp [subterms, Expr.item] at inside
  by_cases single : layout.keyPositions.length = 1
  · simp only [field, single, BEq.rfl, if_true]
    exact ⟨keyTyped, keyCollects _ (.inl rfl)⟩
  · have several : ∀ p, layout.keyPositions = [p] → False := fun p listed => single (by simp [listed])
    have keyType : (Expr.groupKey (.parameter group)).ty = .tuple (layout.keyPositions.map fun p => tys[p]?.getD .object) := by
      simp [Expr.ty, grouped, selectedType_of_ne_singleton several]
    have read := typedIn_item keyTyped keyType (by simpa using within)
    simp only [field, beq_iff_eq, single, if_false]
    exact ⟨read.1, keyCollects _ (.inr rfl)⟩

/-- The projection rebuilt from a group is well typed when the row items it reads have their
slots' types. -/
theorem resultSelector_typed {shape : Shape} {policy : CollectionPolicy} {result : Expr}
    (sorted : layout.slots.Pairwise (·.position < ·.position))
    (slotTyped : ∀ slot ∈ layout.slots, tys[slot.position]? = some slot.element)
    (built : resultSelector shape layout policy group layout.keyPositions = .ok result) (scope : List Param) :
    result.typedIn (group :: scope) = true ∧ CollectsSlotElements layout.slots result := by
  unfold resultSelector at built
  rw [grouped] at built
  obtain ⟨fields, mapped, rebuilt⟩ := Except.bind_eq_ok.mp built
  have each : ∀ field ∈ fields, field.typedIn (group :: scope) = true ∧ CollectsSlotElements layout.slots field := by
    intro field member
    obtain ⟨index, -, step⟩ := exists_of_mapM_eq_ok mapped member
    dsimp only at step
    cases slotted : layout.slotAt? (layout.positionOfField index) with
    | some slot =>
      simp only [slotted, pure, Except.pure, Except.ok.injEq] at step
      subst step
      obtain ⟨listed, -⟩ := (find?_position_eq_some sorted).mp slotted
      obtain ⟨typed, typedElements, plain⟩ := slotValues_typed grouped sorted slotTyped slotted scope
      exact newCollection_collects listed typed typedElements plain _
    | none =>
      simp only [slotted] at step
      cases found : layout.keyPositions.findIdx? (· == layout.positionOfField index) with
      | none => simp [found, throw, throwThe, MonadExceptOf.throw] at step
      | some rank =>
        simp only [found, pure, Except.pure, Except.ok.injEq] at step
        subst step
        obtain ⟨within, -, -⟩ := List.findIdx?_eq_some_iff_getElem.mp found
        exact keyField_typed grouped within scope layout.slots
  exact rebuild_typed rebuilt (fun field member => (each field member).1) fun field member => (each field member).2

end Group

/-- The two steps of a flattening that gives a transform: the first step flattens, and the second
finishes its own projection. -/
theorem flatten_eq_ok_some {flattener : Flattener} {P F : Expr} {T : Transform}
    (flat : flattener.flatten P = .ok ⟨F, some T⟩) :
    ∃ E state, preProcess P = .ok ⟨E, some state⟩ ∧ flattener.postProcess ⟨E, some state⟩ E = .ok ⟨F, some T⟩ := by
  obtain ⟨⟨E, state⟩, pre, finished⟩ := Except.bind_eq_ok.mp flat
  cases state with
  | none => simp [Flattener.postProcess, pure, Except.pure] at finished
  | some state => exact ⟨E, state, pre, finished⟩

/-- The regrouping transform of a flattening is well typed, and every collection it builds has
the element type of a collection slot. -/
theorem flatten_transform_typed {flattener : Flattener} {P F : Expr} {T : Transform}
    (flat : flattener.flatten P = .ok ⟨F, some T⟩) :
    ∃ E state, preProcess P = .ok ⟨E, some state⟩ ∧ T.rows.ty = .sequence .object ∧
      ∃ tys items item keySelector valueSelector g result, F = .mkTuple tys items ∧
        T.body = .toArray (.select (.groupBy (.cast (.parameter T.rows) (.tuple tys)) item keySelector item valueSelector)
          g result) ∧
        item.ty = .tuple tys ∧ g.ty = .grouping keySelector.ty valueSelector.ty ∧
        T.body.typedIn [T.rows] = true ∧ CollectsSlotElements state.layout.slots T.body ∧
        ∀ slot ∈ state.layout.slots, slot.declared.elementType? = some slot.element := by
  obtain ⟨E, state, pre, finished⟩ := flatten_eq_ok_some flat
  refine ⟨E, state, pre, ?_⟩
  obtain ⟨owner, -, -, -, laid, tupled⟩ := preProcess_flattened pre
  obtain ⟨shape, layout⟩ := state
  dsimp only at laid tupled ⊢
  subst laid tupled
  obtain ⟨counted, rfl, built⟩ := postProcess_flattened flattener finished
  obtain ⟨rowCount, keySelector, valueSelector, result, keyed, valued, resulted, rfl⟩ := buildTransform_built built
  dsimp only at counted rowCount keyed valued resulted ⊢
  generalize narrowed : narrowSlots flattener.input (flatLayout shape owner).slots (flatItems shape owner) = items
    at counted rowCount keyed valued resulted ⊢
  have slotTyped : ∀ slot ∈ (flatLayout shape owner).slots, (items.map Expr.ty)[slot.position]? = some slot.element := by
    intro slot member
    have inside : slot.position < (flatItems shape owner).length := flatLayout_slots_inside slot member
    rw [List.getElem?_map, ← narrowed, getElem?_narrowSlots_of_mem flatLayout_slots_pairwise member inside]
    rfl
  have rowLength : (items.map Expr.ty).length = (flatLayout shape owner).arity := by rw [List.length_map, counted]
  have keys := selectPositions_typed rfl (fun p member => rowLength ▸ (mem_keyPositions.mp member).1) keyed
    [⟨flattener.rowsParameter, .sequence .object⟩]
  have values := selectPositions_typed rfl
    (fun p member => by
      obtain ⟨slot, listed, rfl⟩ := List.mem_map.mp member
      exact rowLength ▸ flatLayout_slots_inside slot listed)
    valued [⟨flattener.rowsParameter, .sequence .object⟩]
  have rebuilt := resultSelector_typed (by rw [keys.2.1, values.2.1]) flatLayout_slots_pairwise slotTyped resulted
    [⟨flattener.rowsParameter, .sequence .object⟩]
  have slotElements : ∀ slot ∈ (flatLayout shape owner).slots, slot.declared.elementType? = some slot.element := by
    intro slot member
    obtain ⟨-, -, -, -, -, typed⟩ := mem_flatLayout_slots_iff.mp member
    exact typed
  refine ⟨rfl, _, _, _, keySelector, valueSelector, _, result, rfl, rfl, rfl, rfl, ?_, ?_, slotElements⟩
  · simp [typedIn, Expr.ty, keys.1, values.1, rebuilt.1]
  · -- the only collections are those the projection rebuilt from a group builds
    intro node found kind element source same
    subst same
    simp only [subterms, List.mem_cons, reduceCtorEq, false_or, List.mem_append, List.not_mem_nil] at found
    rcases found with (inKey | inValue) | inResult
    · exact absurd rfl (keys.2.2 _ inKey kind element source)
    · exact absurd rfl (values.2.2 _ inValue kind element source)
    · exact rebuilt.2 _ inResult kind element source rfl

/-- The transform of `new { Name = c.Name, Orders = c.Orders }` is well typed over its rows. -/
theorem flatten_transform_typed_orders :
    let orders : Expr := .new ⟨none, [("Name", .text), ("Orders", .collection .list .int)]⟩
      [.memberAccess (.querySource ⟨1, "c", "Customer"⟩) "Name" .text,
       .memberAccess (.querySource ⟨1, "c", "Customer"⟩) "Orders" (.collection .list .int)]
    ∃ F T, Flattener.flatten ⟨⟨"input", .object⟩, "rows", .declared⟩ orders = .ok ⟨F, some T⟩ ∧
      T.body.typedIn [T.rows] = true := by
  intro orders
  have flattened : Flattener.flatten ⟨⟨"input", .object⟩, "rows", .declared⟩ orders = .ok ⟨?F, some ?T⟩ := by
    with_unfolding_all rfl
  obtain ⟨-, -, -, -, -, -, -, -, -, -, -, -, -, -, -, typed, -⟩ := flatten_transform_typed flattened
  exact ⟨_, _, flattened, typed⟩

end Flatten

end FlatProjection
