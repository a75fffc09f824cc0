import FlatProjection.Proofs.Flatten.Regroup
import FlatProjection.Proofs.Eval.Scope
import FlatProjection.Proofs.Flatten.Fields
/-
Regrouping undoes flattening, run by run.
-/

namespace FlatProjection.Flatten

open Eval

/-- A field's value restored from one run: a collection field collects its slot's cells of the
run's input rows; any other field is its value in the run's scope. -/
def restoredField (policy : CollectionPolicy) (shape : Shape) (layout : Layout) (scope : Scope)
    (inputs : List Value) (field : Nat) : Except EvalError Value :=
  let position := layout.positionOfField field
  match layout.slotAt? position with
  | some slot =>
    pure (Value.collectionOf (policy.concreteKind slot.declared) (inputs.map fun input => cellAt (rowCells input) position))
  | none => evaluate scope (shape.fields.getD field default)

/-- The projection restored from one run of the flat query: the shape assembled from its
restored fields. -/
def restoredValue (policy : CollectionPolicy) (shape : Shape) (layout : Layout) (scope : Scope)
    (inputs : List Value) : Except EvalError Value := do
  let values ← (List.range shape.arity).mapM (restoredField policy shape layout scope inputs)
  pure (shape.assemble values)

/-- The items of the flat query: the flat tuple's items with every slot's item reading the input
row. -/
def queryItems (input : Param) (shape : Shape) (owner : SourceRef) : List Expr :=
  narrowSlots input (flatLayout shape owner).slots (flatItems shape owner)

/-! ### What the flat tuple's items read -/

theorem mem_of_mem_firstById {sources : List SourceRef} {source : SourceRef} (member : source ∈ firstById sources) :
    source ∈ sources := by
  induction sources using firstById.induct with
  | case1 => simp [firstById.eq_1] at member
  | case2 first rest ih =>
    simp only [List.unattach_filter, List.unattach_attach] at ih
    rw [firstById_cons] at member
    rcases List.mem_cons.mp member with rfl | later
    · exact List.mem_cons_self
    · exact List.mem_cons_of_mem _ (List.mem_of_mem_filter (ih later))

/-- The owner of a collection read off a source is a source the field reads. -/
theorem mem_sources_of_collectionOwners {field : Expr} {owner : SourceRef} :
    owner ∈ collectionOwners field → owner ∈ field.sources := by
  unfold collectionOwners
  fun_induction collectionReferences field with
  | case1 target member ty here ih =>
    intro found
    rw [List.map_append] at found
    rcases List.mem_append.mp found with direct | deeper
    · -- a collection read directly off the source itself
      simp only [here] at direct
      split at direct
      · split at direct
        · simp only [List.map_cons, List.map_nil, List.mem_singleton] at direct
          subst direct
          simp [Expr.sources, Expr.subterms, Expr.source?]
        · cases direct
      · cases direct
    · exact Expr.sources_subset (by simp [Expr.subterms]) (ih deeper)
  | case2 operand ty ih => exact fun found => Expr.sources_subset (by simp [Expr.subterms]) (ih found)
  | case3 => intro found; cases found

/-- The fields of a projection's shape are parts of the projection. -/
theorem subterms_of_mem_fields {P : Expr} {shape : Shape} (shaped : Shape.classify? P = some shape) {field : Expr}
    (member : field ∈ shape.fields) : field.subterms ⊆ P.subterms := by
  unfold Shape.classify? at shaped
  split at shaped <;> cases shaped
  · simp only [List.mem_singleton] at member
    subst member
    exact List.Subset.refl _
  · exact fun s within => by simp [Expr.subterms, Expr.mem_subtermsList member within]
  · rcases List.mem_append.mp member with ctor | bound
    · exact fun s within => by simp [Expr.subterms, Expr.mem_subtermsList ctor within]
    · obtain ⟨binding, listed, rfl⟩ := List.mem_map.mp bound
      exact fun s within => by simp [Expr.subterms, Expr.mem_subtermsBindings listed within]

section Owner

variable {P : Expr} {shape : Shape} {owner : SourceRef}

/-- The owner of a shape's collections is a source the projection reads. -/
theorem mem_sources_of_owner (shaped : Shape.classify? P = some shape) (owning : owner ∈ shape.owners) :
    owner ∈ P.sources := by
  obtain ⟨field, member, found⟩ := List.mem_flatMap.mp (mem_of_mem_firstById owning)
  split at found
  · exact Expr.sources_subset (subterms_of_mem_fields shaped member) (mem_sources_of_collectionOwners found)
  · cases found

/-- No item of the flat tuple reads a name that the projection does not read. -/
theorem not_mem_names_of_flatItems (shaped : Shape.classify? P = some shape) (owning : owner ∈ shape.owners)
    {name : String} (unread : name ∉ P.names) : ∀ item ∈ flatItems shape owner, name ∉ item.names := by
  intro item member
  rcases List.mem_append.mp member with leading | field
  · -- an injected owner key reads the owner, which the projection reads too
    have injected : item = .querySource owner := by
      have named := ownerKey_source shape.fields owner
      cases chosen : ownerKey shape.fields owner with
      | injected source =>
        simp only [chosen, OwnerKey.source] at named
        simp_all [OwnerKey.leading]
      | field source position => simp [chosen, OwnerKey.leading] at leading
    subst injected
    have read : owner.name ∈ P.names := Expr.mem_names_of_mem_sources (mem_sources_of_owner shaped owning)
    simp only [Expr.names, Expr.subterms, List.filterMap_cons, Expr.scopeName?, List.filterMap_nil,
      List.mem_singleton]
    rintro rfl
    exact unread read
  · exact fun read => unread (Expr.names_subset (subterms_of_mem_fields shaped field) read)

/-- The flat tuple's item at the owner key's position stands for a source that the projection
reads and that has the owner's id. -/
theorem flatItems_owner (shaped : Shape.classify? P = some shape) (owning : owner ∈ shape.owners) :
    ∃ item source, (flatItems shape owner)[(flatLayout shape owner).owner.position]? = some item ∧
      item.asSource? = some source ∧ source ∈ P.sources ∧ source.id = owner.id := by
  have keyed : (flatLayout shape owner).owner = ownerKey shape.fields owner := rfl
  have named := ownerKey_source shape.fields owner
  cases chosen : ownerKey shape.fields owner with
  | injected source =>
    simp only [chosen, OwnerKey.source] at named
    subst named
    refine ⟨.querySource source, source, ?_, rfl, mem_sources_of_owner shaped owning, rfl⟩
    simp [keyed, chosen, OwnerKey.position, flatItems, OwnerKey.leading]
  | field source position =>
    obtain ⟨inside, stands⟩ := ownerKey_eq_field chosen
    obtain ⟨found, standsFor, sameId⟩ := Option.map_eq_some_iff.mp stands
    refine ⟨shape.fields[position], found, ?_, standsFor, ?_, sameId⟩
    · simp [keyed, chosen, OwnerKey.position, flatItems, OwnerKey.leading, inside]
    · exact Expr.sources_subset (subterms_of_mem_fields shaped (List.getElem_mem inside))
        (Expr.mem_sources_of_asSource standsFor)

end Owner

/-! ### The items that read the input row -/

theorem narrowSlots_cons (input : Param) (slot : Slot) (rest : List Slot) (items : List Expr) :
    narrowSlots input (slot :: rest) items = narrowSlots input rest (items.set slot.position (slotReader input slot)) :=
  rfl

/-- A position that no slot has keeps its item. -/
theorem getElem?_narrowSlots_of_free {input : Param} {position : Nat} :
    ∀ {slots : List Slot} {items : List Expr}, (∀ slot ∈ slots, slot.position ≠ position) →
      (narrowSlots input slots items)[position]? = items[position]?
  | [], _, _ => rfl
  | slot :: rest, items, free => by
    rw [narrowSlots_cons, getElem?_narrowSlots_of_free fun other member => free other (List.mem_cons_of_mem _ member),
      List.getElem?_set_ne (free slot List.mem_cons_self)]

/-- Among slots of increasing positions, each slot's position holds the slot's reader. -/
theorem getElem?_narrowSlots_of_mem {input : Param} :
    ∀ {slots : List Slot} {items : List Expr}, slots.Pairwise (·.position < ·.position) → ∀ {slot : Slot},
      slot ∈ slots → slot.position < items.length →
        (narrowSlots input slots items)[slot.position]? = some (slotReader input slot)
  | [], _, _, _, member, _ => by cases member
  | first :: rest, items, sorted, slot, member, inside => by
    rw [List.pairwise_cons] at sorted
    rw [narrowSlots_cons]
    rcases List.mem_cons.mp member with rfl | later
    · rw [getElem?_narrowSlots_of_free fun other listed => Nat.ne_of_gt (sorted.1 other listed),
        List.getElem?_set_self inside]
    · exact getElem?_narrowSlots_of_mem sorted.2 later (by simpa using inside)

/-- A slot's reader gives the input row's cell at the slot. -/
theorem evaluate_slotReader {input : Param} {slot : Slot} {row : Value} {scope : Scope} {cell : Value}
    (evaluated : evaluate ((input.name, row) :: scope) (slotReader input slot) = .ok cell) :
    cell = cellAt (rowCells row) slot.position := by
  have read := evaluate_convert_eq_ok evaluated
  simp only [evaluate, lookup_cons_self, bind, Except.bind] at read
  cases row <;> simp_all [rowCells, cellAt] <;> split at read <;> simp_all

/-! ### Grouping keys -/

theorem selectCells_congr {positions : List Nat} {cells cells' : List Value}
    (same : ∀ p ∈ positions, cellAt cells p = cellAt cells' p) :
    selectCells positions cells = selectCells positions cells' := by
  unfold selectCells
  split
  · exact same _ (List.mem_singleton_self _)
  · rw [List.map_congr_left same]

theorem itemsBeq_map {α : Type} {f g : α → Value} :
    ∀ {xs : List α}, Value.itemsBeq (xs.map f) (xs.map g) = true → ∀ x ∈ xs, (f x == g x) = true
  | [], _ => by simp
  | x :: rest, equal => by
    simp only [List.map_cons, Value.itemsBeq, Bool.and_eq_true] at equal
    intro y member
    rcases List.mem_cons.mp member with rfl | later
    · exact equal.1
    · exact itemsBeq_map equal.2 y later

/-- Equal keys agree at each of their positions. -/
theorem cellAt_beq_of_selectCells_beq {positions : List Nat} {p : Nat} (member : p ∈ positions)
    {cells cells' : List Value} (equal : (selectCells positions cells == selectCells positions cells') = true) :
    (cellAt cells p == cellAt cells' p) = true := by
  by_cases single : ∃ q, positions = [q]
  · obtain ⟨q, rfl⟩ := single
    rw [List.mem_singleton.mp member]
    exact equal
  · have several : ∀ q, positions = [q] → False := fun q listed => single ⟨q, listed⟩
    rw [selectCells_of_ne_singleton several, selectCells_of_ne_singleton several] at equal
    exact itemsBeq_map equal p member

/-- A key whose cells hold no NaN holds none. -/
theorem nanFree_selectCells {positions : List Nat} {cells : List Value}
    (finite : ∀ p ∈ positions, (cellAt cells p).nanFree = true) : (selectCells positions cells).nanFree = true := by
  unfold selectCells
  split
  · exact finite _ (List.mem_singleton_self _)
  · simpa [Value.nanFree, Value.itemsNanFree_iff] using finite

/-! ### Rows of the flat query -/

section Rows

variable {P : Expr} {shape : Shape} {owner : SourceRef} {input : Param} {scope : Scope} {tys : List ValueType}
  {r row : Value}

/-- A row of the flat query holds, at each position, the value of the query's item there. -/
theorem queryRow_cell {position : Nat} {item : Expr}
    (evaluated : evaluate ((input.name, r) :: scope) (.mkTuple tys (queryItems input shape owner)) = .ok row)
    (found : (queryItems input shape owner)[position]? = some item) :
    evaluate ((input.name, r) :: scope) item = .ok (cellAt (rowCells row) position) := by
  obtain ⟨cells, rfl, related⟩ := evaluate_mkTuple_eq_ok evaluated
  obtain ⟨inside, rfl⟩ := List.getElem?_eq_some_iff.mp found
  have within : position < cells.length := related.length_eq ▸ inside
  rw [rowCells, cellAt_eq_getElem within]
  exact related.get inside within

/-- At a slot, a row of the flat query holds the input row's cell. -/
theorem queryRow_slot {position : Nat} {slot : Slot} (slotted : (flatLayout shape owner).slotAt? position = some slot)
    (evaluated : evaluate ((input.name, r) :: scope) (.mkTuple tys (queryItems input shape owner)) = .ok row) :
    cellAt (rowCells row) position = cellAt (rowCells r) position := by
  unfold Layout.slotAt? at slotted
  obtain ⟨member, rfl⟩ := (find?_position_eq_some flatLayout_slots_pairwise).mp slotted
  have found : (queryItems input shape owner)[slot.position]? = some (slotReader input slot) :=
    getElem?_narrowSlots_of_mem flatLayout_slots_pairwise member (flatLayout_slots_inside slot member)
  exact evaluate_slotReader (queryRow_cell evaluated found)

/-- Away from the slots, a row of the flat query holds the value of the flat tuple's item in the
run's own scope, when the projection never reads the input row's name. -/
theorem queryRow_item (shaped : Shape.classify? P = some shape) (owning : owner ∈ shape.owners)
    (unread : input.name ∉ P.names) {position : Nat} {item : Expr}
    (free : (flatLayout shape owner).slotAt? position = none) (found : (flatItems shape owner)[position]? = some item)
    (evaluated : evaluate ((input.name, r) :: scope) (.mkTuple tys (queryItems input shape owner)) = .ok row) :
    evaluate scope item = .ok (cellAt (rowCells row) position) := by
  have kept : (queryItems input shape owner)[position]? = some item := by
    unfold Layout.slotAt? at free
    rw [queryItems, getElem?_narrowSlots_of_free fun slot member sits => by
      simpa [sits] using List.find?_eq_none.mp free slot member, found]
  rw [← evaluate_cons_of_not_mem (not_mem_names_of_flatItems shaped owning unread item (List.mem_of_getElem? found)) r]
  exact queryRow_cell evaluated kept

/-- Two rows of the flat query in one scope have the same grouping key. -/
theorem queryRow_key (shaped : Shape.classify? P = some shape) (owning : owner ∈ shape.owners)
    (unread : input.name ∉ P.names) {r' row' : Value}
    (evaluated : evaluate ((input.name, r) :: scope) (.mkTuple tys (queryItems input shape owner)) = .ok row)
    (evaluated' : evaluate ((input.name, r') :: scope) (.mkTuple tys (queryItems input shape owner)) = .ok row') :
    selectCells (flatLayout shape owner).keyPositions (rowCells row) =
      selectCells (flatLayout shape owner).keyPositions (rowCells row') := by
  apply selectCells_congr
  intro p member
  obtain ⟨inside, free⟩ := mem_keyPositions.mp member
  have found : (flatItems shape owner)[p]? = some (flatItems shape owner)[p] :=
    List.getElem?_eq_getElem (flatItems_length ▸ inside)
  have first := queryRow_item shaped owning unread free found evaluated
  rw [queryRow_item shaped owning unread free found evaluated'] at first
  exact (Except.ok.inj first).symm

/-- A row of the flat query holds, at the owner key's position, the owner's value in the scope,
when the projection reads every source under one name per id. -/
theorem queryRow_owner (shaped : Shape.classify? P = some shape) (owning : owner ∈ shape.owners)
    (unread : input.name ∉ P.names) (named : P.sourcesNamedById = true)
    (evaluated : evaluate ((input.name, r) :: scope) (.mkTuple tys (queryItems input shape owner)) = .ok row) :
    lookup scope owner.name = .ok (cellAt (rowCells row) (flatLayout shape owner).owner.position) := by
  obtain ⟨item, source, found, stands, read, sameId⟩ := flatItems_owner shaped owning
  have renamed : source.name = owner.name :=
    Expr.name_eq_of_sourcesNamedById named read (mem_sources_of_owner shaped owning) sameId
  rw [← renamed]
  exact evaluate_of_asSource stands (queryRow_item shaped owning unread flatLayout_owner_position.2 found evaluated)

/-- Rows of the flat query in two scopes whose owners' values are unequal have unequal grouping
keys, when the projection reads every source under one name per id. -/
theorem queryRow_keys_apart (shaped : Shape.classify? P = some shape) (owning : owner ∈ shape.owners)
    (unread : input.name ∉ P.names) (named : P.sourcesNamedById = true) {scope' : Scope} {r' row' : Value}
    (apart : ∀ x y, lookup scope owner.name = .ok x → lookup scope' owner.name = .ok y → (x == y) = false)
    (evaluated : evaluate ((input.name, r) :: scope) (.mkTuple tys (queryItems input shape owner)) = .ok row)
    (evaluated' : evaluate ((input.name, r') :: scope') (.mkTuple tys (queryItems input shape owner)) = .ok row') :
    (selectCells (flatLayout shape owner).keyPositions (rowCells row) ==
      selectCells (flatLayout shape owner).keyPositions (rowCells row')) = false := by
  have owners := apart _ _ (queryRow_owner shaped owning unread named evaluated)
    (queryRow_owner shaped owning unread named evaluated')
  cases equal : (selectCells (flatLayout shape owner).keyPositions (rowCells row) ==
      selectCells (flatLayout shape owner).keyPositions (rowCells row'))
  · rfl
  · -- equal keys agree at every key position, the owner key's among them
    rw [cellAt_beq_of_selectCells_beq (mem_keyPositions.mpr flatLayout_owner_position) equal] at owners
    cases owners

end Rows

/-! ### Runs of the flat query -/

section Runs

variable {P : Expr} {shape : Shape} {owner : SourceRef} {input : Param} {tys : List ValueType}
  (policy : CollectionPolicy)

/-- Flat rows that share one key, followed by rows whose keys differ from it, regroup as the
projection assembled from that block followed by the regrouping of the rest. -/
theorem regroup_block_append {layout : Layout} {first : List Value} {rest later : List (List Value)}
    (keyed : ∀ cells ∈ first :: rest, selectCells layout.keyPositions cells = selectCells layout.keyPositions first)
    (self : (selectCells layout.keyPositions first == selectCells layout.keyPositions first) = true)
    (foreign : ∀ cells ∈ later,
      (selectCells layout.keyPositions first == selectCells layout.keyPositions cells) = false) :
    regroup policy shape layout (first :: rest ++ later) =
      shape.assemble ((List.range shape.arity).map (groupFieldValue policy layout first (first :: rest))) ::
        regroup policy shape layout later := by
  simp only [regroup, groupRows_block_append _ keyed self foreign, List.map_cons]

/-- A run whose input rows gave the flat rows `first :: rest` restores each field to the field's
value in the group of those rows. -/
theorem restoredField_eq (shaped : Shape.classify? P = some shape) (owning : owner ∈ shape.owners)
    (unread : input.name ∉ P.names) {scope : Scope} {inputs : List Value} {first : Value} {rest : List Value}
    (evaluated : List.Forall₂ (fun r row => evaluate ((input.name, r) :: scope)
      (.mkTuple tys (queryItems input shape owner)) = .ok row) inputs (first :: rest))
    {field : Nat} (inside : field < shape.arity) :
    restoredField policy shape (flatLayout shape owner) scope inputs field =
      .ok (groupFieldValue policy (flatLayout shape owner) (rowCells first) ((first :: rest).map rowCells) field) := by
  unfold restoredField groupFieldValue
  dsimp only
  cases slotted : (flatLayout shape owner).slotAt? ((flatLayout shape owner).positionOfField field) with
  | some slot =>
    generalize (flatLayout shape owner).positionOfField field = position at slotted ⊢
    have paired : List.Forall₂ (· = ·) (inputs.map fun input => cellAt (rowCells input) position)
        (((first :: rest).map rowCells).map (cellAt · position)) := by
      rw [List.map_map, List.forall₂_map_left_iff, List.forall₂_map_right_iff]
      exact evaluated.imp fun r row step => (queryRow_slot slotted step).symm
    rw [List.forall₂_eq_eq_eq] at paired
    rw [paired]
    rfl
  | none =>
    have found : (flatItems shape owner)[(flatLayout shape owner).positionOfField field]? = some shape.fields[field] := by
      simp only [flatItems, Layout.positionOfField, flatLayout_fieldOffset]
      rw [List.getElem?_append_right (Nat.le_add_left _ _), Nat.add_sub_cancel]
      exact List.getElem?_eq_getElem inside
    rw [List.getD_eq_getElem?_getD, List.getElem?_eq_getElem inside, Option.getD_some]
    cases evaluated with
    | cons step _ => exact queryRow_item shaped owning unread slotted found step

/-- A run whose input rows gave the flat rows `first :: rest` restores to the projection that the
regrouping assembles from the group of those rows. -/
theorem restoredValue_eq (shaped : Shape.classify? P = some shape) (owning : owner ∈ shape.owners)
    (unread : input.name ∉ P.names) {scope : Scope} {inputs : List Value} {first : Value} {rest : List Value}
    (evaluated : List.Forall₂ (fun r row => evaluate ((input.name, r) :: scope)
      (.mkTuple tys (queryItems input shape owner)) = .ok row) inputs (first :: rest)) :
    restoredValue policy shape (flatLayout shape owner) scope inputs =
      .ok (shape.assemble ((List.range shape.arity).map
        (groupFieldValue policy (flatLayout shape owner) (rowCells first) ((first :: rest).map rowCells)))) := by
  have fields : (List.range shape.arity).mapM (restoredField policy shape (flatLayout shape owner) scope inputs) =
      .ok ((List.range shape.arity).map
        (groupFieldValue policy (flatLayout shape owner) (rowCells first) ((first :: rest).map rowCells))) := by
    simpa using mapM_map_eq_ok id fun field member =>
      restoredField_eq policy shaped owning unread evaluated (List.mem_range.mp member)
  simp [restoredValue, fields, bind, Except.bind, pure, Except.pure]

/-- Runs of the flat query whose owners are pairwise unequal restore, run by run, to what the
regrouping makes of their concatenated flat rows. -/
theorem mapM_restoredValue (shaped : Shape.classify? P = some shape) (owning : owner ∈ shape.owners)
    (unread : input.name ∉ P.names) (named : P.sourcesNamedById = true) :
    ∀ {runs : List (Scope × List Value)} {rows : List Value}, (∀ run ∈ runs, run.2 ≠ []) →
      runs.Pairwise (fun a b => ∀ x y, lookup a.1 owner.name = .ok x → lookup b.1 owner.name = .ok y →
        (x == y) = false) →
      (runs.flatMap fun run => run.2.map fun r => (input.name, r) :: run.1).mapM
        (evaluate · (.mkTuple tys (queryItems input shape owner))) = .ok rows →
      (∀ row ∈ rows, ∀ p ∈ (flatLayout shape owner).keyPositions, (cellAt (rowCells row) p).nanFree = true) →
      runs.mapM (fun run => restoredValue policy shape (flatLayout shape owner) run.1 run.2) =
        .ok (regroup policy shape (flatLayout shape owner) (rows.map rowCells))
  | [], rows, _, _, evaluated, _ => by
    simp only [List.flatMap_nil, List.mapM_nil, pure, Except.pure, Except.ok.injEq] at evaluated
    subst evaluated
    simp [regroup, groupRows.eq_1, pure, Except.pure]
  | run :: later, rows, nonempty, apart, evaluated, finite => by
    rw [List.flatMap_cons, List.mapM_append] at evaluated
    obtain ⟨block, blocked, evaluated⟩ := Except.bind_eq_ok.mp evaluated
    obtain ⟨others, othered, joined⟩ := Except.bind_eq_ok.mp evaluated
    cases joined
    have related : List.Forall₂ (fun r row => evaluate ((input.name, r) :: run.1)
        (.mkTuple tys (queryItems input shape owner)) = .ok row) run.2 block := by
      rw [mapM_eq_ok_iff_forall₂, List.forall₂_map_left_iff] at blocked
      exact blocked
    obtain ⟨first, rest, rfl⟩ : ∃ first rest, block = first :: rest := by
      obtain ⟨r, rs, listed⟩ := List.exists_cons_of_ne_nil (nonempty run List.mem_cons_self)
      rw [listed] at related
      cases related with
      | cons => exact ⟨_, _, rfl⟩
    have fromRun : ∀ row ∈ first :: rest, ∃ r, evaluate ((input.name, r) :: run.1)
        (.mkTuple tys (queryItems input shape owner)) = .ok row := by
      intro row member
      obtain ⟨scope, listed, step⟩ := exists_of_mapM_eq_ok blocked member
      obtain ⟨r, -, rfl⟩ := List.mem_map.mp listed
      exact ⟨r, step⟩
    obtain ⟨r₀, firstRow⟩ := fromRun first List.mem_cons_self
    have keyed : ∀ cells ∈ rowCells first :: rest.map rowCells,
        selectCells (flatLayout shape owner).keyPositions cells =
          selectCells (flatLayout shape owner).keyPositions (rowCells first) := by
      intro cells member
      rw [← List.map_cons] at member
      obtain ⟨row, listed, rfl⟩ := List.mem_map.mp member
      obtain ⟨r, step⟩ := fromRun row listed
      exact queryRow_key shaped owning unread step firstRow
    have self : (selectCells (flatLayout shape owner).keyPositions (rowCells first) ==
        selectCells (flatLayout shape owner).keyPositions (rowCells first)) = true :=
      Value.beq_self_of_nanFree (nanFree_selectCells (finite first (by simp)))
    -- a flat row of a later run is keyed by that run's owner, which this run's owner does not equal
    have foreign : ∀ cells ∈ others.map rowCells, (selectCells (flatLayout shape owner).keyPositions (rowCells first) ==
        selectCells (flatLayout shape owner).keyPositions cells) = false := by
      intro cells member
      obtain ⟨row, listed, rfl⟩ := List.mem_map.mp member
      obtain ⟨scope, listedScope, step⟩ := exists_of_mapM_eq_ok othered listed
      obtain ⟨other, laterRun, inRun⟩ := List.mem_flatMap.mp listedScope
      obtain ⟨r, -, rfl⟩ := List.mem_map.mp inRun
      exact queryRow_keys_apart shaped owning unread named (List.rel_of_pairwise_cons apart laterRun) firstRow step
    have restored := restoredValue_eq policy shaped owning unread related
    have laterRuns := mapM_restoredValue shaped owning unread named
      (fun other member => nonempty other (List.mem_cons_of_mem _ member)) apart.of_cons othered
      (fun row member => finite row (List.mem_append_right _ member))
    rw [List.mapM_cons, restored, laterRuns, List.map_append, List.map_cons,
      regroup_block_append policy keyed self foreign]
    rfl

end Runs

/-- Regrouping undoes flattening: the transform gives back one projection per run of the flat
query, in order, each restored from its run. -/
theorem applyProgram_runs_eq_restored {flattener : Flattener} {P E F : Expr} {T : Transform} {shape : Shape}
    {layout : Layout} (pre : preProcess P = .ok ⟨E, some ⟨shape, layout⟩⟩)
    (flat : flattener.flatten P = .ok ⟨F, some T⟩) (unread : flattener.input.name ∉ P.names)
    (named : P.sourcesNamedById = true) {runs : List (Scope × List Value)} (nonempty : ∀ run ∈ runs, run.2 ≠ [])
    (apart : runs.Pairwise fun a b => ∀ x y, lookup a.1 layout.owner.source.name = .ok x →
      lookup b.1 layout.owner.source.name = .ok y → (x == y) = false)
    {rows : List Value}
    (evaluated : (runs.flatMap fun run => run.2.map fun r => (flattener.input.name, r) :: run.1).mapM
      (evaluate · F) = .ok rows)
    (flatRows : ∀ row ∈ rows, isFlatRow F.ty row = true ∧
      ∀ p ∈ layout.keyPositions, (cellAt (rowCells row) p).nanFree = true) :
    ∃ results, applyProgram T.rows.name T.body rows = .ok results ∧
      runs.mapM (fun run => restoredValue flattener.policy shape layout run.1 run.2) = .ok results := by
  obtain ⟨owner, shaped, owned, -, laid, rfl⟩ := preProcess_flattened pre
  dsimp only at laid
  subst laid
  have owning : owner ∈ shape.owners := by
    rw [owned]
    exact List.mem_singleton_self owner
  have finished : flattener.postProcess
      ⟨.mkTuple ((flatItems shape owner).map Expr.ty) (flatItems shape owner), some ⟨shape, flatLayout shape owner⟩⟩
      (.mkTuple ((flatItems shape owner).map Expr.ty) (flatItems shape owner)) = .ok ⟨F, some T⟩ := by
    simpa [Flattener.flatten, pre, bind, Except.bind] using flat
  obtain ⟨-, rfl, built⟩ := postProcess_flattened flattener finished
  refine ⟨_, applyProgram_transform built flatLayout_slots_inside fun row member => (flatRows row member).1, ?_⟩
  have ownerSource : (flatLayout shape owner).owner.source = owner := ownerKey_source shape.fields owner
  rw [ownerSource] at apart
  exact mapM_restoredValue flattener.policy shaped owning unread named nonempty apart evaluated
    fun row member => (flatRows row member).2

theorem applyProgram_runs_orders :
    let orders : Expr := .new ⟨none, [("Name", .text), ("Orders", .collection .list .int)]⟩
      [.memberAccess (.querySource ⟨1, "c", "Customer"⟩) "Name" .text,
       .memberAccess (.querySource ⟨1, "c", "Customer"⟩) "Orders" (.collection .list .int)]
    let flat : Expr := .mkTuple [.entity "Customer", .text, .int]
      [.querySource ⟨1, "c", "Customer"⟩, .memberAccess (.querySource ⟨1, "c", "Customer"⟩) "Name" .text,
       .convert (.rowIndex (.parameter ⟨"input", .object⟩) 2) .int]
    let ann : Value := .record none [("Id", .int 1), ("Name", .text "Ann")]
    let bob : Value := .record none [("Id", .int 2), ("Name", .text "Bob")]
    let runs : List (Scope × List Value) :=
      [([("c", ann)], [.list [.null, .null, .int 10], .list [.null, .null, .int 11]]),
       ([("c", bob)], [.list [.null, .null, .null]])]
    let rows : List Value :=
      [.tuple [ann, .text "Ann", .int 10], .tuple [ann, .text "Ann", .int 11], .tuple [bob, .text "Bob", .null]]
    ∃ (E : Expr) (T : Transform) (shape : Shape) (layout : Layout),
      preProcess orders = .ok ⟨E, some ⟨shape, layout⟩⟩ ∧
      Flattener.flatten ⟨⟨"input", .object⟩, "rows", .declared⟩ orders = .ok ⟨flat, some T⟩ ∧
      "input" ∉ orders.names ∧ orders.sourcesNamedById = true ∧ (∀ run ∈ runs, run.2 ≠ []) ∧
      runs.Pairwise (fun a b => ∀ x y, lookup a.1 layout.owner.source.name = .ok x →
        lookup b.1 layout.owner.source.name = .ok y → (x == y) = false) ∧
      (runs.flatMap fun run => run.2.map fun r => ("input", r) :: run.1).mapM (evaluate · flat) = .ok rows ∧
      (∀ row ∈ rows, isFlatRow flat.ty row = true ∧
        ∀ p ∈ layout.keyPositions, (cellAt (rowCells row) p).nanFree = true) ∧
      ∃ results, applyProgram T.rows.name T.body rows = .ok results ∧
        runs.mapM (fun run => restoredValue .declared shape layout run.1 run.2) = .ok results := by
  intro orders flat ann bob runs rows
  have pre : preProcess orders = .ok ⟨?E, some ⟨?shape, ?layout⟩⟩ := by with_unfolding_all rfl
  have flattened : Flattener.flatten ⟨⟨"input", .object⟩, "rows", .declared⟩ orders = .ok ⟨flat, some ?T⟩ := by
    with_unfolding_all rfl
  have unread : "input" ∉ orders.names := by decide
  have named : orders.sourcesNamedById = true := by decide
  have nonempty : ∀ run ∈ runs, run.2 ≠ [] := by simp [runs]
  have apart : runs.Pairwise fun a b => ∀ x y, lookup a.1 "c" = .ok x → lookup b.1 "c" = .ok y → (x == y) = false := by
    simp only [runs, List.pairwise_cons, List.mem_singleton, forall_eq, List.not_mem_nil, IsEmpty.forall_iff,
      implies_true, List.Pairwise.nil, and_true, lookup_cons_self, Except.ok.injEq]
    rintro x y rfl rfl
    decide
  have evaluated : (runs.flatMap fun run => run.2.map fun r => ("input", r) :: run.1).mapM (evaluate · flat) =
      .ok rows := by rfl
  refine ⟨_, _, _, _, pre, flattened, unread, named, nonempty, apart, evaluated, ?flatRows,
    applyProgram_runs_eq_restored pre flattened unread named nonempty apart evaluated ?flatRows⟩
  case flatRows => with_unfolding_all decide

/-- A projection that reads its owner under two names can merge two runs into one projection. -/
theorem applyProgram_merges_runs_of_renamed_owner :
    let P : Expr := .new ⟨none, [("A", .entity "Customer"), ("Orders", .collection .list .int)]⟩
      [.querySource ⟨1, "a", "Customer"⟩,
       .memberAccess (.querySource ⟨1, "b", "Customer"⟩) "Orders" (.collection .list .int)]
    let flat : Expr := .mkTuple [.entity "Customer", .int]
      [.querySource ⟨1, "a", "Customer"⟩, .convert (.rowIndex (.parameter ⟨"input", .object⟩) 1) .int]
    let a : Value := .record none [("Id", .int 1)]
    let runs : List (Scope × List Value) :=
      [([("a", a), ("b", .record none [("Id", .int 1), ("Tag", .int 1)])], [.list [.null, .int 10]]),
       ([("a", a), ("b", .record none [("Id", .int 1), ("Tag", .int 2)])], [.list [.null, .int 20]])]
    let rows : List Value := [.tuple [a, .int 10], .tuple [a, .int 20]]
    P.sourcesNamedById = false ∧ "input" ∉ P.names ∧
      runs.Pairwise (fun a b => ∀ x y, lookup a.1 "b" = .ok x → lookup b.1 "b" = .ok y → (x == y) = false) ∧
      ∃ T : Transform, Flattener.flatten ⟨⟨"input", .object⟩, "rows", .declared⟩ P = .ok ⟨flat, some T⟩ ∧
        (runs.flatMap fun run => run.2.map fun r => ("input", r) :: run.1).mapM (evaluate · flat) = .ok rows ∧
        applyProgram T.rows.name T.body rows = .ok [.record none [("A", a), ("Orders", .list [.int 10, .int 20])]] := by
  intro P flat a runs rows
  have flattened : Flattener.flatten ⟨⟨"input", .object⟩, "rows", .declared⟩ P = .ok ⟨flat, some ?T⟩ := by
    with_unfolding_all rfl
  refine ⟨by decide, by decide, ?_, _, flattened, rfl, ?_⟩
  · simp only [runs, List.pairwise_cons, List.mem_singleton, forall_eq, List.not_mem_nil, IsEmpty.forall_iff,
      implies_true, List.Pairwise.nil, and_true]
    intro x y found found'
    simp [lookup] at found found'
    subst found found'
    decide
  · with_unfolding_all rfl

/-- A key holding a NaN equals no key, so the input rows of a single run come back as one
projection each. -/
theorem applyProgram_splits_run_of_nan_key :
    let P : Expr := .new ⟨none, [("Orders", .collection .list .int)]⟩
      [.memberAccess (.querySource ⟨1, "c", "Customer"⟩) "Orders" (.collection .list .int)]
    let flat : Expr := .mkTuple [.entity "Customer", .int]
      [.querySource ⟨1, "c", "Customer"⟩, .convert (.rowIndex (.parameter ⟨"input", .object⟩) 1) .int]
    let c : Value := .record none [("Id", .float ⟨0x7FF8000000000000⟩)]
    let runs : List (Scope × List Value) := [([("c", c)], [.list [.null, .int 10], .list [.null, .int 20]])]
    let rows : List Value := [.tuple [c, .int 10], .tuple [c, .int 20]]
    P.sourcesNamedById = true ∧ "input" ∉ P.names ∧ (∀ run ∈ runs, run.2 ≠ []) ∧
      ∃ T : Transform, Flattener.flatten ⟨⟨"input", .object⟩, "rows", .declared⟩ P = .ok ⟨flat, some T⟩ ∧
        (runs.flatMap fun run => run.2.map fun r => ("input", r) :: run.1).mapM (evaluate · flat) = .ok rows ∧
        (∀ row ∈ rows, isFlatRow flat.ty row = true) ∧
        applyProgram T.rows.name T.body rows =
          .ok [.record none [("Orders", .list [.int 10])], .record none [("Orders", .list [.int 20])]] := by
  intro P flat c runs rows
  have flattened : Flattener.flatten ⟨⟨"input", .object⟩, "rows", .declared⟩ P = .ok ⟨flat, some ?T⟩ := by
    with_unfolding_all rfl
  refine ⟨by decide, by decide, by simp [runs], _, flattened, rfl, by decide, ?_⟩
  with_unfolding_all rfl

end FlatProjection.Flatten
