import FlatProjection.Proofs.Flatten.RoundTrip
import Mathlib.Data.List.Nodup
/-
The flat tuple a flattening lays out: owner key, fields, and collection slots.
-/

namespace FlatProjection.Flatten

/-- A collection type has an element type. -/
theorem elementType?_of_isCollection {ty : ValueType} (collection : ty.isCollection = true) :
    ∃ element, ty.elementType? = some element := by
  cases ty <;>
    simp_all [ValueType.isCollection, ValueType.isEnumerable, ValueType.elementType?, bne, BEq.beq, ValueType.beq]

/-! ### Layouts whose slots increase -/

section Sorted

variable {layout : Layout} (sorted : layout.slots.Pairwise (·.position < ·.position))
include sorted

/-- The collection positions are the positions that have a slot. -/
theorem mem_injectedIndices {position : Nat} :
    position ∈ layout.injectedIndices ↔ (layout.slotAt? position).isSome := by
  unfold Layout.injectedIndices Layout.slotAt?
  constructor
  · intro member
    obtain ⟨slot, inside, rfl⟩ := List.mem_map.mp member
    rw [(find?_position_eq_some sorted).mpr ⟨inside, rfl⟩]
    rfl
  · intro found
    obtain ⟨slot, sits⟩ := Option.isSome_iff_exists.mp found
    obtain ⟨inside, rfl⟩ := (find?_position_eq_some sorted).mp sits
    exact List.mem_map_of_mem inside

/-- The grouping key and the collection positions split the tuple's positions between them. -/
theorem keyPositions_append_injectedIndices_perm (inside : ∀ slot ∈ layout.slots, slot.position < layout.arity) :
    (layout.keyPositions ++ layout.injectedIndices).Perm (List.range layout.arity) := by
  have keysNodup : layout.keyPositions.Nodup := List.nodup_range.filter _
  have slotsNodup : layout.injectedIndices.Nodup := (List.pairwise_map.mpr sorted).nodup
  have apart : ∀ key ∈ layout.keyPositions, ∀ position ∈ layout.injectedIndices, key ≠ position := by
    rintro key keyed position slotted rfl
    rw [mem_keyPositions] at keyed
    rw [mem_injectedIndices sorted, keyed.2] at slotted
    cases slotted
  rw [List.perm_ext_iff_of_nodup (List.nodup_append.mpr ⟨keysNodup, slotsNodup, apart⟩) List.nodup_range]
  intro position
  rw [List.mem_append, mem_keyPositions, mem_injectedIndices sorted, List.mem_range]
  cases slotted : layout.slotAt? position with
  | none => simp
  | some slot =>
    obtain ⟨member, rfl⟩ := (find?_position_eq_some sorted).mp slotted
    simp [inside slot member]

end Sorted

/-- Among slots of increasing positions, the narrowed items hold each slot's reader at its
position and keep every other item. -/
theorem getElem?_narrowSlots {input : Param} {slots : List Slot} {items : List Expr}
    (sorted : slots.Pairwise (·.position < ·.position)) (inside : ∀ slot ∈ slots, slot.position < items.length)
    (position : Nat) :
    (narrowSlots input slots items)[position]? =
      match slots.find? (·.position == position) with
      | some slot => some (slotReader input slot)
      | none => items[position]? := by
  split
  · rename_i slot found
    obtain ⟨member, rfl⟩ := (find?_position_eq_some sorted).mp found
    exact getElem?_narrowSlots_of_mem sorted member (inside slot member)
  · rename_i missing
    exact getElem?_narrowSlots_of_free fun slot member sits => List.find?_eq_none.mp missing slot member (by simpa using sits)

/-! ### The flat layout -/

section FlatLayout

variable {shape : Shape} {owner : SourceRef}

theorem flatLayout_owner : (flatLayout shape owner).owner = ownerKey shape.fields owner := rfl

/-- The owner is injected exactly when no field stands for it. -/
theorem flatLayout_ownerInjected_iff :
    (flatLayout shape owner).ownerInjected = true ↔ ∀ field ∈ shape.fields, field.asSource?.map (·.id) ≠ some owner.id := by
  unfold Layout.ownerInjected
  rw [flatLayout_owner]
  cases chosen : ownerKey shape.fields owner with
  | injected source => simpa using ownerKey_eq_injected chosen
  | field source position =>
    obtain ⟨inside, stands⟩ := ownerKey_eq_field chosen
    simp only [Bool.false_eq_true, false_iff, not_forall, not_not]
    exact ⟨_, List.getElem_mem inside, stands⟩

/-- Otherwise the owner key is the first field that stands for the owner. -/
theorem flatLayout_owner_eq_field_iff {position : Nat} :
    (flatLayout shape owner).owner = .field owner position ↔
      ∃ inside : position < shape.fields.length, shape.fields[position].asSource?.map (·.id) = some owner.id ∧
        ∀ earlier (before : earlier < position), shape.fields[earlier].asSource?.map (·.id) ≠ some owner.id := by
  rw [flatLayout_owner, ownerKey]
  split
  · rename_i first found
    rw [List.findIdx?_eq_some_iff_getElem] at found
    obtain ⟨within, stands, none⟩ := found
    simp only [OwnerKey.field.injEq, true_and]
    constructor
    · rintro rfl
      exact ⟨within, by simpa using stands, fun earlier before => by simpa using none earlier before⟩
    · rintro ⟨inside, standing, others⟩
      by_contra differ
      rcases Nat.lt_or_gt_of_ne differ with before | after
      · exact others first before (by simpa using stands)
      · exact none position after (by simpa using standing)
  · rename_i missing
    simp only [reduceCtorEq, false_iff, not_exists, not_and]
    intro inside stands
    have := List.findIdx?_eq_none_iff.mp missing _ (List.getElem_mem inside)
    simp [stands] at this

/-- The flat tuple's items: the owner first when it is injected, then the fields. -/
theorem flatItems_eq :
    flatItems shape owner = (if (flatLayout shape owner).ownerInjected then [.querySource owner] else []) ++ shape.fields := by
  have named := ownerKey_source shape.fields owner
  unfold flatItems Layout.ownerInjected
  rw [flatLayout_owner]
  cases chosen : ownerKey shape.fields owner with
  | injected source =>
    rw [chosen, OwnerKey.source] at named
    simp [OwnerKey.leading, named]
  | field source position => simp [OwnerKey.leading]

/-- The slots are the collection fields, each at its field's position shifted past an injected
owner, with its field's declared type and that type's element type. -/
theorem mem_flatLayout_slots_iff {slot : Slot} :
    slot ∈ (flatLayout shape owner).slots ↔ ∃ field, ∃ inside : field < shape.fields.length,
      isCollectionField shape.fields[field] = true ∧ slot.position = field + (flatLayout shape owner).fieldOffset ∧
        slot.declared = shape.fields[field].ty ∧ slot.declared.elementType? = some slot.element := by
  rw [mem_flatLayout_slots]
  constructor
  · rintro ⟨field, inside, collection, rfl⟩
    obtain ⟨element, typed⟩ := elementType?_of_isCollection (Bool.and_eq_true_iff.mp collection).1
    exact ⟨field, inside, collection, rfl, rfl, by simp [slotOf, typed]⟩
  · rintro ⟨field, inside, collection, sits, declared, typed⟩
    refine ⟨field, inside, collection, ?_⟩
    obtain ⟨position, declaredType, element⟩ := slot
    simp only at sits declared typed
    subst sits declared
    simp [slotOf, typed]

/-- The collection positions are the collection fields' indices shifted past an injected owner. -/
theorem flatLayout_injectedIndices :
    (flatLayout shape owner).injectedIndices = shape.collectionFields.map (·.1 + (flatLayout shape owner).fieldOffset) := by
  rw [Layout.injectedIndices, flatLayout_slots, List.map_map]
  rfl

/-- The owner key's position is no collection position. -/
theorem flatLayout_owner_not_mem_injectedIndices :
    (flatLayout shape owner).owner.position ∉ (flatLayout shape owner).injectedIndices := by
  rw [mem_injectedIndices flatLayout_slots_pairwise, flatLayout_owner_position.2]
  simp

end FlatLayout

/-- How the first step of a flattening lays out the flat tuple of `items`. -/
structure LaysOut (shape : Shape) (owner : SourceRef) (layout : Layout) (items : List Expr) : Prop where
  owner_source : layout.owner.source = owner
  injected_iff : layout.ownerInjected = true ↔ ∀ field ∈ shape.fields, field.asSource?.map (·.id) ≠ some owner.id
  field_iff : ∀ position, layout.owner = .field owner position ↔
    ∃ inside : position < shape.fields.length, shape.fields[position].asSource?.map (·.id) = some owner.id ∧
      ∀ earlier (before : earlier < position), shape.fields[earlier].asSource?.map (·.id) ≠ some owner.id
  items_eq : items = (if layout.ownerInjected then [.querySource owner] else []) ++ shape.fields
  arity_eq : layout.arity = shape.arity + layout.fieldOffset
  arity_within : 2 ≤ layout.arity ∧ layout.arity ≤ 6
  mem_slots : ∀ slot, slot ∈ layout.slots ↔ ∃ field, ∃ inside : field < shape.fields.length,
    isCollectionField shape.fields[field] = true ∧ slot.position = field + layout.fieldOffset ∧
      slot.declared = shape.fields[field].ty ∧ slot.declared.elementType? = some slot.element
  injectedIndices_eq : layout.injectedIndices = shape.collectionFields.map (·.1 + layout.fieldOffset)
  increasing : layout.injectedIndices.Pairwise (· < ·)
  owner_not_slot : layout.owner.position ∉ layout.injectedIndices
  partition : (layout.keyPositions ++ layout.injectedIndices).Perm (List.range layout.arity)
  owner_key : layout.owner.position ∈ layout.keyPositions

/-- The flat layout of a narrow shape with one owner lays out the flat items. -/
theorem flatLayout_laysOut {shape : Shape} {owner : SourceRef} (single : shape.owners = [owner])
    (narrow : shape.arity ≤ maxProjectionFields) :
    LaysOut shape owner (flatLayout shape owner) (flatItems shape owner) where
  owner_source := ownerKey_source shape.fields owner
  injected_iff := flatLayout_ownerInjected_iff
  field_iff _ := flatLayout_owner_eq_field_iff
  items_eq := flatItems_eq
  arity_eq := flatLayout_arity
  arity_within :=
    ⟨two_le_flatItems_length (exists_collectionField_of_owners (by simp [single])), flatLayout_arity_le narrow⟩
  mem_slots _ := mem_flatLayout_slots_iff
  injectedIndices_eq := flatLayout_injectedIndices
  increasing := List.pairwise_map.mpr flatLayout_slots_pairwise
  owner_not_slot := flatLayout_owner_not_mem_injectedIndices
  partition := keyPositions_append_injectedIndices_perm flatLayout_slots_pairwise flatLayout_slots_inside
  owner_key := mem_keyPositions.mpr flatLayout_owner_position

/-- The first step of a flattening lays out its flat tuple as `LaysOut` says, and the second step
makes each slot read the input row's cell. -/
theorem preProcess_layout {P E : Expr} {state : FlattenState} (pre : preProcess P = .ok ⟨E, some state⟩)
    (flattener : Flattener) :
    ∃ owner items, Shape.classify? P = some state.shape ∧ state.shape.owners = [owner] ∧
      E = .mkTuple (items.map Expr.ty) items ∧ LaysOut state.shape owner state.layout items ∧
      ∃ narrowed T, flattener.postProcess ⟨E, some state⟩ E = .ok ⟨.mkTuple (narrowed.map Expr.ty) narrowed, some T⟩ ∧
        narrowed.length = state.layout.arity ∧
        ∀ position < state.layout.arity, narrowed[position]? =
          match state.layout.slotAt? position with
          | some slot => some (.convert (.rowIndex (.parameter flattener.input) position) slot.element)
          | none => items[position]? := by
  obtain ⟨owner, shaped, single, narrow, laid, tupled⟩ := preProcess_flattened pre
  obtain ⟨shape, layout⟩ := state
  dsimp only at shaped single narrow laid tupled ⊢
  subst laid tupled
  refine ⟨owner, flatItems shape owner, shaped, single, rfl, flatLayout_laysOut single narrow, ?_⟩
  obtain ⟨flat, T, finished⟩ := postProcess_ok flattener shaped single narrow
  obtain ⟨counted, rfl, -⟩ := postProcess_flattened flattener finished
  refine ⟨_, T, finished, counted, fun position _ => ?_⟩
  have inside : ∀ slot ∈ (flatLayout shape owner).slots, slot.position < (flatItems shape owner).length :=
    flatLayout_slots_inside
  dsimp only
  rw [getElem?_narrowSlots flatLayout_slots_pairwise inside position]
  unfold Layout.slotAt?
  split
  · rename_i slot found
    obtain ⟨-, rfl⟩ := (find?_position_eq_some flatLayout_slots_pairwise).mp found
    rfl
  · rfl

/-- `new { C = c, Name = c.Name, Orders = c.Orders }` keeps its owner at field 0: nothing is
injected, and the orders sit in the only slot, at position 2. -/
theorem preProcess_layout_owner_field :
    let c : SourceRef := ⟨1, "c", "Customer"⟩
    let orders : Expr := .new ⟨none, [("C", .entity "Customer"), ("Name", .text), ("Orders", .collection .list .int)]⟩
      [.querySource c, .memberAccess (.querySource c) "Name" .text,
       .memberAccess (.querySource c) "Orders" (.collection .list .int)]
    ∃ E state, preProcess orders = .ok ⟨E, some state⟩ ∧ state.layout.owner = .field c 0 ∧
      state.layout.injectedIndices = [2] := by
  intro c orders
  have pre : preProcess orders = .ok ⟨?E, some ?state⟩ := by with_unfolding_all rfl
  obtain ⟨owner, items, -, single, -, laid, -⟩ := preProcess_layout pre ⟨⟨"input", .object⟩, "rows", .declared⟩
  have named : owner = c := by
    have : [owner] = [c] := single.symm.trans (by with_unfolding_all rfl)
    simpa using this
  subst named
  refine ⟨_, _, pre, (laid.field_iff 0).mpr ⟨by decide, rfl, nofun⟩, ?_⟩
  with_unfolding_all rfl

end FlatProjection.Flatten
