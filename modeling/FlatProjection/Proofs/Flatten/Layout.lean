import FlatProjection.Flatten.Flattener
import FlatProjection.Proofs.Traversal
import Mathlib.Data.List.Induction
/-
The layout a flattening chooses marks exactly the collection fields.
-/

namespace FlatProjection

namespace Flatten

/-- This field reads a collection directly off a query source. -/
def isCollectionField (field : Expr) : Bool :=
  field.ty.isCollection && !(collectionOwners field).isEmpty

/-- This list keeps each source id once, at its first occurrence. -/
def firstById : List SourceRef → List SourceRef
  | [] => []
  | source :: rest => source :: firstById (rest.filter (·.id != source.id))
termination_by sources => sources.length
decreasing_by
  simp only [List.length_cons, List.length_unattach]
  exact Nat.lt_succ_of_le (Nat.le_trans (List.length_filter_le _ _) (Nat.le_of_eq List.length_attach))

/-- The written label of a source, `name#id`. -/
def SourceRef.label (source : SourceRef) : String := source.name ++ "#" ++ toString source.id

namespace Shape

/-- The sources owning the collection fields, each once, in order of first occurrence. -/
def owners (shape : Shape) : List SourceRef :=
  firstById (shape.fields.flatMap fun field => if isCollectionField field then collectionOwners field else [])

/-- The collection fields with their indices and declared types. -/
def collectionFields (shape : Shape) : List (Nat × ValueType) :=
  (shape.fields.zipIdx.filter fun entry => isCollectionField entry.1).map fun entry => (entry.2, entry.1.ty)

end Shape

theorem firstById_cons (source : SourceRef) (rest : List SourceRef) :
    firstById (source :: rest) = source :: firstById (rest.filter (·.id != source.id)) :=
  firstById.eq_2 source rest

/-- Adding sources one by one, skipping known ids, appends their first occurrences. -/
theorem foldl_addOwner (known sources : List SourceRef) :
    sources.foldl (fun owners owner => if owners.any (·.id == owner.id) then owners else owners ++ [owner])
        known =
      known ++ firstById (sources.filter fun source => !known.any (·.id == source.id)) := by
  induction sources generalizing known with
  | nil => simp [firstById.eq_1]
  | cons source rest ih =>
    simp only [List.foldl_cons]
    by_cases seen : known.any (·.id == source.id)
    · simp only [seen, if_true, ih, List.filter_cons, Bool.not_true, Bool.false_eq_true, if_false]
    · simp only [seen, Bool.false_eq_true, if_false, ih, List.filter_cons, Bool.not_false, if_true,
        firstById_cons, List.append_assoc, List.singleton_append, List.filter_filter]
      congr 3
      apply List.filter_congr
      intro other _
      simp only [List.any_append, List.any_cons, List.any_nil, Bool.or_false, Bool.not_or, Bool.and_comm,
        bne, Bool.beq_comm]

/-- Scanning the fields finds the shape's owners and its collection fields. -/
theorem scanFields_eq (shape : Shape) : scanFields shape.fields = (shape.owners, shape.collectionFields) := by
  have fold : scanFields shape.fields =
      ((shape.fields.zipIdx.flatMap fun entry =>
          if isCollectionField entry.1 then collectionOwners entry.1 else []).foldl
        (fun owners owner => if owners.any (·.id == owner.id) then owners else owners ++ [owner]) [],
        shape.collectionFields) := by
    unfold scanFields Shape.collectionFields
    dsimp only
    generalize shape.fields.zipIdx = entries
    induction entries using List.reverseRecOn with
    | nil => rfl
    | append_singleton rest entry ih =>
      obtain ⟨field, index⟩ := entry
      rw [List.foldl_append, ih]
      cases collection : field.ty.isCollection <;> cases owned : collectionOwners field <;>
        simp [isCollectionField, collection, owned, List.foldl_append]
  rw [fold, foldl_addOwner]
  have fields : shape.fields.zipIdx.flatMap (fun entry =>
      if isCollectionField entry.1 then collectionOwners entry.1 else []) =
      shape.fields.flatMap fun field => if isCollectionField field then collectionOwners field else [] := by
    have regrouped := List.flatMap_map Prod.fst
      (fun field => if isCollectionField field then collectionOwners field else []) shape.fields.zipIdx
    rw [List.zipIdx_map_fst] at regrouped
    exact regrouped.symm
  simp [Shape.owners, fields, List.filter_eq_self.mpr]

theorem firstById_eq_nil {sources : List SourceRef} : firstById sources = [] ↔ sources = [] := by
  cases sources with
  | nil => simp [firstById.eq_1]
  | cons source rest => simp [firstById_cons]

/-- A shape with an owner has a collection field. -/
theorem exists_collectionField_of_owners {shape : Shape} (owned : shape.owners ≠ []) :
    ∃ field ∈ shape.fields, isCollectionField field = true := by
  by_contra none
  apply owned
  rw [Shape.owners, firstById_eq_nil, List.flatMap_eq_nil_iff]
  intro field member
  simp only [not_exists, not_and, Bool.not_eq_true] at none
  simp [none field member]

/-- A field that stands for a source reads no collection off a source. -/
theorem collectionOwners_eq_nil_of_asSource : ∀ {field : Expr} {source : SourceRef},
    field.asSource? = some source → collectionOwners field = []
  | .querySource _, _, _ => rfl
  | .convert operand _, _, stands => @collectionOwners_eq_nil_of_asSource operand _ stands
  | .memberAccess .., _, stands | .new .., _, stands | .memberInit .., _, stands | .parameter _, _, stands
  | .literal _, _, stands | .rowIndex .., _, stands | .tupleItem .., _, stands | .mkTuple .., _, stands
  | .groupKey _, _, stands | .cast .., _, stands | .groupBy .., _, stands | .select .., _, stands
  | .toArray _, _, stands | .newCollection .., _, stands => by simp [Expr.asSource?] at stands

theorem isCollectionField_of_asSource {field : Expr} {source : SourceRef} (stands : field.asSource? = some source) :
    isCollectionField field = false := by
  simp [isCollectionField, collectionOwners_eq_nil_of_asSource stands]

/-- The owner key a flattening chooses: the first field that stands for the owner, or else a new
first item. -/
def ownerKey (fields : List Expr) (owner : SourceRef) : OwnerKey :=
  match fields.findIdx? (fun field => field.asSource?.map (·.id) == some owner.id) with
  | some position => .field owner position
  | none => .injected owner

/-- The items the owner key puts before the fields. -/
def OwnerKey.leading : OwnerKey → List Expr
  | .injected source => [.querySource source]
  | .field .. => []

/-- The slot of a collection field, shifted `offset` places in the tuple. -/
def slotOf (offset : Nat) (field : Nat × ValueType) : Slot :=
  ⟨field.1 + offset, field.2, field.2.elementType?.getD .object⟩

/-- The layout of the flat tuple of `shape` whose collections belong to `owner`. -/
def flatLayout (shape : Shape) (owner : SourceRef) : Layout :=
  let key := ownerKey shape.fields owner
  ⟨key, (key.leading ++ shape.fields).length,
    (shape.collectionFields.map (slotOf key.leading.length)).mergeSort (·.position ≤ ·.position)⟩

/-- The items of the flat tuple: the injected owner, if any, then the fields. -/
def flatItems (shape : Shape) (owner : SourceRef) : List Expr :=
  (ownerKey shape.fields owner).leading ++ shape.fields

/-- A tuple of two to six items is built. -/
theorem tupleOf_eq_ok {items : List Expr} (least : 2 ≤ items.length) (most : items.length ≤ 6) :
    tupleOf items = .ok (.mkTuple (items.map Expr.ty) items) := by
  have within : (decide (2 ≤ items.length) && decide (items.length ≤ 6)) = true := by simp [least, most]
  simp [tupleOf, Expr.tupleOf, checkArity, tupleArityRange, within, Except.mapError, bind, Except.bind, pure,
    Except.pure]

/-- The owner key stands for the owner. -/
@[simp] theorem ownerKey_source (fields : List Expr) (owner : SourceRef) :
    (ownerKey fields owner).source = owner := by
  unfold ownerKey
  split <;> rfl

/-- An owner key that is a field names the first field standing for the owner. -/
theorem ownerKey_eq_field {fields : List Expr} {owner : SourceRef} {position : Nat} {source : SourceRef}
    (chosen : ownerKey fields owner = .field source position) :
    ∃ inside : position < fields.length, fields[position].asSource?.map (·.id) = some owner.id := by
  unfold ownerKey at chosen
  split at chosen
  · rename_i found
    cases chosen
    obtain ⟨inside, stands, -⟩ := List.findIdx?_eq_some_iff_getElem.mp found
    exact ⟨inside, by simpa using stands⟩
  · cases chosen

/-- An injected owner key means that no field stands for the owner. -/
theorem ownerKey_eq_injected {fields : List Expr} {owner source : SourceRef}
    (chosen : ownerKey fields owner = .injected source) :
    ∀ field ∈ fields, field.asSource?.map (·.id) ≠ some owner.id := by
  unfold ownerKey at chosen
  split at chosen
  · cases chosen
  · rename_i missing
    intro field member stands
    have := List.findIdx?_eq_none_iff.mp missing field member
    simp [stands] at this

/-- The field the owner key names is no collection field. -/
theorem isCollectionField_ownerKey {fields : List Expr} {owner source : SourceRef} {position : Nat}
    (chosen : ownerKey fields owner = .field source position) (inside : position < fields.length) :
    isCollectionField fields[position] = false := by
  obtain ⟨_, stands⟩ := ownerKey_eq_field chosen
  cases standsFor : fields[position].asSource? with
  | none => simp [standsFor] at stands
  | some found => exact isCollectionField_of_asSource standsFor

/-- With a collection field among them, the fields and the owner key make at least two items. -/
theorem two_le_flatItems_length {shape : Shape} {owner : SourceRef}
    (collection : ∃ field ∈ shape.fields, isCollectionField field = true) :
    2 ≤ (flatItems shape owner).length := by
  obtain ⟨field, member, isField⟩ := collection
  have nonempty : 1 ≤ shape.fields.length := List.length_pos_of_mem member
  unfold flatItems
  cases chosen : ownerKey shape.fields owner with
  | injected source => simp [OwnerKey.leading]; omega
  | field source position =>
    simp only [OwnerKey.leading, List.nil_append]
    obtain ⟨inside, -⟩ := ownerKey_eq_field chosen
    by_contra single
    have one : shape.fields.length = 1 := by omega
    obtain ⟨only, alone⟩ := List.length_eq_one_iff.mp one
    have same : shape.fields[position] = field := by
      simp only [alone, List.mem_singleton] at member
      simp [alone, member]
    have := isCollectionField_ownerKey chosen inside
    rw [same, isField] at this
    cases this

theorem leading_length_le_one (key : OwnerKey) : key.leading.length ≤ 1 := by
  cases key <;> simp [OwnerKey.leading]

section PreProcess

variable {P : Expr} {shape : Shape}

/-- A projection of no flattenable shape stays as it is. -/
theorem preProcess_of_classify_none (unshaped : Shape.classify? P = none) : preProcess P = .ok ⟨P, none⟩ := by
  simp [preProcess, unshaped, pure, Except.pure]

/-- Collection fields of several owners are refused with the owners' labels. -/
theorem preProcess_of_owners_several (shaped : Shape.classify? P = some shape)
    (several : 1 < shape.owners.length) :
    preProcess P = .error (.unsupportedProjection (shape.owners.map SourceRef.label)) := by
  simp [preProcess, shaped, scanFields_eq, several, SourceRef.label, throw, throwThe, MonadExceptOf.throw,
    bind, Except.bind]

/-- A shape without collection fields stays as it is. -/
theorem preProcess_of_owners_nil (shaped : Shape.classify? P = some shape) (unowned : shape.owners = []) :
    preProcess P = .ok ⟨P, none⟩ := by
  simp [preProcess, shaped, scanFields_eq, unowned, pure, Except.pure]

/-- A shape with one owner and more than five fields is refused. -/
theorem preProcess_of_wide {owner : SourceRef} (shaped : Shape.classify? P = some shape)
    (single : shape.owners = [owner]) (wide : maxProjectionFields < shape.arity) :
    preProcess P = .error (.unsupportedArity shape.arity 1 maxProjectionFields) := by
  simp [preProcess, shaped, scanFields_eq, single, wide, throw, throwThe, MonadExceptOf.throw, bind,
    Except.bind]

/-- A shape with one owner and at most five fields becomes the flat tuple of its owner key and
fields, with the flat layout. -/
theorem preProcess_of_owner {owner : SourceRef} (shaped : Shape.classify? P = some shape)
    (single : shape.owners = [owner]) (narrow : shape.arity ≤ maxProjectionFields) :
    preProcess P = .ok ⟨.mkTuple ((flatItems shape owner).map Expr.ty) (flatItems shape owner),
      some ⟨shape, flatLayout shape owner⟩⟩ := by
  have least : 2 ≤ (flatItems shape owner).length :=
    two_le_flatItems_length (exists_collectionField_of_owners (by simp [single]))
  have most : (flatItems shape owner).length ≤ 6 := by
    have := leading_length_le_one (ownerKey shape.fields owner)
    simp only [flatItems, List.length_append]
    simp only [maxProjectionFields, tupleArityRange, Shape.arity] at narrow
    omega
  have built := tupleOf_eq_ok least most
  simp only [flatItems, flatLayout, ownerKey] at built ⊢
  simp only [preProcess, shaped, scanFields_eq, single, List.length_cons, List.length_nil, Nat.lt_irrefl,
    gt_iff_lt, if_false, List.head?_cons, Nat.not_lt.mpr narrow, bind, Except.bind, pure, Except.pure]
  generalize List.findIdx? (fun field => field.asSource?.map (·.id) == some owner.id) shape.fields = found at built ⊢
  cases found <;> simp_all [OwnerKey.leading] <;> rfl

end PreProcess

/-- A collection field of the shape sits at its index and carries its field's type. -/
theorem mem_collectionFields {shape : Shape} {index : Nat} {ty : ValueType} :
    (index, ty) ∈ shape.collectionFields ↔
      ∃ inside : index < shape.arity, isCollectionField shape.fields[index] = true ∧ ty = shape.fields[index].ty := by
  simp only [Shape.collectionFields, List.mem_map, List.mem_filter, Prod.mk.injEq, Prod.exists,
    List.mem_zipIdx_iff_getElem?, Shape.arity]
  constructor
  · rintro ⟨field, _, ⟨found, collection⟩, rfl, rfl⟩
    obtain ⟨inside, rfl⟩ := List.getElem?_eq_some_iff.mp found
    exact ⟨inside, collection, rfl⟩
  · rintro ⟨inside, collection, rfl⟩
    exact ⟨_, _, ⟨List.getElem?_eq_getElem inside, collection⟩, rfl, rfl⟩

/-- The collection fields come in increasing index order. -/
theorem collectionFields_pairwise (shape : Shape) : shape.collectionFields.Pairwise (·.1 < ·.1) := by
  unfold Shape.collectionFields
  rw [List.pairwise_map]
  apply List.Pairwise.filter
  rw [List.pairwise_iff_getElem]
  intro first second _ _ before
  simpa [List.getElem_zipIdx] using before

/-- In slots of increasing position, the slot found at a position is the one sitting there. -/
theorem find?_position_eq_some {slots : List Slot} (sorted : slots.Pairwise (·.position < ·.position))
    {position : Nat} {slot : Slot} :
    slots.find? (·.position == position) = some slot ↔ slot ∈ slots ∧ slot.position = position := by
  constructor
  · intro found
    exact ⟨List.mem_of_find?_eq_some found, by simpa using List.find?_some found⟩
  · rintro ⟨member, rfl⟩
    induction slots with
    | nil => cases member
    | cons first rest ih =>
      rw [List.pairwise_cons] at sorted
      by_cases here : first.position = slot.position
      · have same : first = slot := by
          rcases List.mem_cons.mp member with same | later
          · exact same.symm
          · exact absurd here (Nat.ne_of_lt (sorted.1 slot later))
        simp [same]
      · have later : slot ∈ rest := by
          rcases List.mem_cons.mp member with same | later
          · exact absurd (congrArg Slot.position same.symm) here
          · exact later
        simp [here, ih sorted.2 later]

section FlatLayout

variable {shape : Shape} {owner : SourceRef}

theorem flatLayout_fieldOffset : (flatLayout shape owner).fieldOffset = (ownerKey shape.fields owner).leading.length := by
  unfold flatLayout Layout.fieldOffset Layout.ownerInjected
  cases ownerKey shape.fields owner <;> rfl

theorem flatLayout_arity : (flatLayout shape owner).arity = shape.arity + (flatLayout shape owner).fieldOffset := by
  rw [flatLayout_fieldOffset]
  simp [flatLayout, Shape.arity, Nat.add_comm]

/-- The slots of the flat layout are the collection fields, shifted past the owner key. -/
theorem flatLayout_slots :
    (flatLayout shape owner).slots = shape.collectionFields.map (slotOf (flatLayout shape owner).fieldOffset) := by
  rw [flatLayout_fieldOffset]
  apply List.mergeSort_of_pairwise
  rw [List.pairwise_map]
  refine (collectionFields_pairwise shape).imp fun before => ?_
  simp [slotOf]
  omega

theorem flatLayout_slots_pairwise :
    (flatLayout shape owner).slots.Pairwise (·.position < ·.position) := by
  rw [flatLayout_slots, List.pairwise_map]
  refine (collectionFields_pairwise shape).imp fun before => ?_
  simp only [slotOf]
  omega

/-- The slots of the flat layout are the shifted collection fields. -/
theorem mem_flatLayout_slots {slot : Slot} :
    slot ∈ (flatLayout shape owner).slots ↔ ∃ field, ∃ inside : field < shape.arity,
      isCollectionField shape.fields[field] = true ∧
        slot = slotOf (flatLayout shape owner).fieldOffset (field, shape.fields[field].ty) := by
  rw [flatLayout_slots, List.mem_map]
  constructor
  · rintro ⟨⟨field, ty⟩, member, rfl⟩
    obtain ⟨inside, collection, rfl⟩ := mem_collectionFields.mp member
    exact ⟨field, inside, collection, rfl⟩
  · rintro ⟨field, inside, collection, rfl⟩
    exact ⟨_, mem_collectionFields.mpr ⟨inside, collection, rfl⟩, rfl⟩

/-- A field of the shape sits in a slot exactly when it is a collection field. -/
theorem flatLayout_slotAt?_field {field : Nat} (inside : field < shape.arity) :
    (flatLayout shape owner).slotAt? (field + (flatLayout shape owner).fieldOffset) =
      if isCollectionField shape.fields[field] then
        some (slotOf (flatLayout shape owner).fieldOffset (field, shape.fields[field].ty))
      else none := by
  unfold Layout.slotAt?
  split
  · rename_i collection
    rw [find?_position_eq_some flatLayout_slots_pairwise, mem_flatLayout_slots]
    exact ⟨⟨field, inside, collection, rfl⟩, rfl⟩
  · rename_i plain
    rw [List.find?_eq_none]
    intro slot member sits
    obtain ⟨other, within, collection, rfl⟩ := mem_flatLayout_slots.mp member
    have same : other = field := by simpa [slotOf] using sits
    subst same
    exact plain collection

/-- No slot lies before the fields. -/
theorem flatLayout_slotAt?_lt {position : Nat} (before : position < (flatLayout shape owner).fieldOffset) :
    (flatLayout shape owner).slotAt? position = none := by
  unfold Layout.slotAt?
  rw [List.find?_eq_none]
  intro slot member sits
  obtain ⟨other, within, collection, rfl⟩ := mem_flatLayout_slots.mp member
  simp only [slotOf, beq_iff_eq] at sits
  omega

/-- The grouping key holds exactly the positions of the tuple that are no slot. -/
theorem mem_keyPositions {layout : Layout} {position : Nat} :
    position ∈ layout.keyPositions ↔ position < layout.arity ∧ layout.slotAt? position = none := by
  simp [Layout.keyPositions]

theorem keyPositions_length_le (layout : Layout) : layout.keyPositions.length ≤ layout.arity := by
  unfold Layout.keyPositions
  exact Nat.le_trans (List.length_filter_le _ _) (Nat.le_of_eq List.length_range)

/-- The slot found at a position sits there, at the rank of the slot list that the search for
that position finds. -/
theorem slotAt?_rank {layout : Layout} {position : Nat} {slot : Slot} (slotted : layout.slotAt? position = some slot) :
    slot.position = position ∧ ∃ rank, ∃ within : rank < layout.slots.length, layout.slots[rank] = slot ∧
      layout.slots.findIdx? (·.position == position) = some rank := by
  unfold Layout.slotAt? at slotted
  obtain ⟨sits, rank, within, atRank, before⟩ := List.find?_eq_some_iff_getElem.mp slotted
  refine ⟨by simpa using sits, rank, within, atRank, ?_⟩
  rw [List.findIdx?_eq_some_iff_getElem]
  exact ⟨within, by rw [atRank]; exact sits, fun j earlier => by simpa using before j earlier⟩

/-- With a single slot, the values of a group are that slot's cells alone. -/
theorem injectedIndices_of_single {layout : Layout} {position : Nat} {slot : Slot}
    (single : layout.slots.length = 1) (slotted : layout.slotAt? position = some slot) :
    layout.injectedIndices = [position] := by
  obtain ⟨sits, rank, within, atRank, -⟩ := slotAt?_rank slotted
  obtain ⟨only, alone⟩ := List.length_eq_one_iff.mp single
  have same : only.position = position := by
    simp only [alone, List.length_singleton, Nat.lt_one_iff] at within
    subst within
    simpa [alone, ← atRank] using sits
  simp [Layout.injectedIndices, alone, same]

/-- With no slot or several, the values of a group are tuples of slot cells. -/
theorem injectedIndices_ne_singleton {layout : Layout} (single : ¬ layout.slots.length = 1) :
    ∀ p, layout.injectedIndices = [p] → False := by
  intro p listed
  apply single
  simpa [Layout.injectedIndices] using congrArg List.length listed

/-- The owner key sits inside the flat tuple and is never a collection slot. -/
theorem flatLayout_owner_position :
    (flatLayout shape owner).owner.position < (flatLayout shape owner).arity ∧
      (flatLayout shape owner).slotAt? (flatLayout shape owner).owner.position = none := by
  have offset : (flatLayout shape owner).fieldOffset = _ := flatLayout_fieldOffset
  have arity : (flatLayout shape owner).arity = _ := flatLayout_arity
  cases chosen : ownerKey shape.fields owner with
  | injected source =>
    have owned : (flatLayout shape owner).owner = .injected source := chosen
    simp only [chosen, OwnerKey.leading, List.length_singleton] at offset
    rw [owned, OwnerKey.position]
    exact ⟨by omega, flatLayout_slotAt?_lt (by omega)⟩
  | field source position =>
    have owned : (flatLayout shape owner).owner = .field source position := chosen
    simp only [chosen, OwnerKey.leading, List.length_nil] at offset
    obtain ⟨inside, -⟩ := ownerKey_eq_field chosen
    rw [owned, OwnerKey.position]
    refine ⟨by simp only [Shape.arity] at arity; omega, ?_⟩
    have slot : (flatLayout shape owner).slotAt? _ = _ := flatLayout_slotAt?_field inside
    rw [offset, Nat.add_zero, isCollectionField_ownerKey chosen inside] at slot
    simpa using slot

/-- The grouping key of the flat layout holds the owner key, so it is never empty. -/
theorem flatLayout_keyPositions_ne_nil : (flatLayout shape owner).keyPositions ≠ [] :=
  List.ne_nil_of_mem (mem_keyPositions.mpr flatLayout_owner_position)

end FlatLayout

end Flatten

end FlatProjection
