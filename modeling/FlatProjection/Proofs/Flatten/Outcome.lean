import FlatProjection.Proofs.Flatten.Layout
import FlatProjection.Plan.Basic
/-
What flattening a projection can answer, decided by its shape alone.
-/

namespace FlatProjection.Flatten

/-- Overwriting items one by one keeps the number of items. -/
theorem length_foldl_set {α β : Type} (updates : List β) (position : β → Nat) (value : β → α) (items : List α) :
    (updates.foldl (fun items update => items.set (position update) (value update)) items).length = items.length := by
  induction updates generalizing items with
  | nil => rfl
  | cons update rest ih => simp [ih]

/-- One position is read bare; two to six are read as a tuple. -/
theorem selectPositions_ok (item : Param) {positions : List Nat} (nonempty : positions ≠ [])
    (most : positions.length ≤ 6) : ∃ selector, selectPositions item positions = .ok selector := by
  match positions, nonempty with
  | [position], _ => exact ⟨_, rfl⟩
  | first :: second :: rest, _ =>
    exact ⟨_, tupleOf_eq_ok (by simp) (by simpa using most)⟩

/-- A shape rebuilds from as many fields as it has. -/
theorem rebuild_ok {P : Expr} {shape : Shape} (shaped : Shape.classify? P = some shape) {fields : List Expr}
    (counted : fields.length = shape.arity) : ∃ rebuilt, shape.rebuild fields = .ok rebuilt := by
  have counted' : (fields.length != shape.arity) = false := by simp [counted]
  unfold Shape.rebuild
  rw [counted', if_neg Bool.false_ne_true]
  unfold Shape.classify? at shaped
  split at shaped <;> cases shaped
  · match fields, counted with
    | [field], _ => exact ⟨field, rfl⟩
  · exact ⟨_, rfl⟩
  · exact ⟨_, rfl⟩

end FlatProjection.Flatten

namespace FlatProjection.Flatten

/-- The projection is rebuilt from a group whenever every field finds its slot or its key
component. -/
theorem resultSelector_ok {P : Expr} {shape : Shape} (shaped : Shape.classify? P = some shape) (layout : Layout)
    (policy : CollectionPolicy) {group : Param} {keys : List Nat} {keyType element : ValueType}
    (grouped : group.ty = .grouping keyType element)
    (covered : ∀ field < shape.arity,
      layout.slotAt? (layout.positionOfField field) = none → layout.positionOfField field ∈ keys) :
    ∃ result, resultSelector shape layout policy group keys = .ok result := by
  unfold resultSelector
  rw [grouped]
  dsimp only
  apply Except.exists_bind_ok
  · apply mapM_ok_of_forall
    intro field member
    rw [List.mem_range] at member
    split
    · exact ⟨_, rfl⟩
    · rename_i slotted
      split
      · exact ⟨_, rfl⟩
      · rename_i missing
        have listed := covered field member slotted
        rw [List.findIdx?_eq_none_iff] at missing
        simpa using missing _ listed
  · intro fields built
    exact rebuild_ok shaped (mapM_length built |>.trans List.length_range)

section FlatLayout

variable {shape : Shape} {owner : SourceRef}

theorem flatLayout_arity_le (narrow : shape.arity ≤ maxProjectionFields) : (flatLayout shape owner).arity ≤ 6 := by
  have offset := leading_length_le_one (ownerKey shape.fields owner)
  rw [flatLayout_arity, flatLayout_fieldOffset]
  simp only [maxProjectionFields, tupleArityRange] at narrow
  omega

theorem flatLayout_injectedIndices_length_le : (flatLayout shape owner).injectedIndices.length ≤ shape.arity := by
  rw [Layout.injectedIndices, flatLayout_slots, List.length_map, List.length_map, Shape.collectionFields,
    List.length_map]
  exact Nat.le_trans (List.length_filter_le _ _) (Nat.le_of_eq List.length_zipIdx)

/-- A shape with an owner has a collection field, so its flat layout has a slot. -/
theorem flatLayout_injectedIndices_ne_nil (owned : shape.owners ≠ []) :
    (flatLayout shape owner).injectedIndices ≠ [] := by
  obtain ⟨field, member, collection⟩ := exists_collectionField_of_owners owned
  obtain ⟨index, inside, rfl⟩ := List.getElem_of_mem member
  have slotted := mem_collectionFields.mpr ⟨inside, collection, rfl⟩
  rw [Layout.injectedIndices, flatLayout_slots]
  simpa using List.ne_nil_of_mem slotted

/-- Every field of the shape finds its slot or its key component in the flat layout. -/
theorem flatLayout_covered {field : Nat} (inside : field < shape.arity)
    (plain : (flatLayout shape owner).slotAt? ((flatLayout shape owner).positionOfField field) = none) :
    (flatLayout shape owner).positionOfField field ∈ (flatLayout shape owner).keyPositions := by
  rw [mem_keyPositions, Layout.positionOfField, flatLayout_arity]
  exact ⟨Nat.add_lt_add_right inside _, plain⟩

/-- The regrouping transform is always built for the flat layout of a narrow shape with one
owner, whatever the policy, given a row type of the layout's arity. -/
theorem buildTransform_ok {P : Expr} (shaped : Shape.classify? P = some shape) (owned : shape.owners = [owner])
    (narrow : shape.arity ≤ maxProjectionFields) (policy : CollectionPolicy) (rowsParameter : String)
    {rowType : List ValueType} (counted : rowType.length = (flatLayout shape owner).arity) :
    ∃ transform, buildTransform shape (flatLayout shape owner) policy rowsParameter rowType = .ok transform := by
  have width : (flatLayout shape owner).arity ≤ 6 := flatLayout_arity_le narrow
  have keyed : (flatLayout shape owner).keyPositions ≠ [] := flatLayout_keyPositions_ne_nil
  have valued : (flatLayout shape owner).injectedIndices ≠ [] :=
    flatLayout_injectedIndices_ne_nil (owned ▸ List.cons_ne_nil owner [])
  have keysFew := keyPositions_length_le (flatLayout shape owner)
  have valuesFew : (flatLayout shape owner).injectedIndices.length ≤ shape.arity :=
    flatLayout_injectedIndices_length_le
  simp only [maxProjectionFields, tupleArityRange] at narrow
  unfold buildTransform
  simp only [counted, bne_self_eq_false, Bool.false_eq_true, if_false, List.isEmpty_eq_false_iff.mpr keyed]
  apply Except.exists_bind_ok (selectPositions_ok _ keyed (by omega))
  intro keySelector _
  apply Except.exists_bind_ok (selectPositions_ok _ valued (by omega))
  intro valueSelector _
  apply Except.exists_bind_ok (resultSelector_ok shaped _ policy rfl fun _ inside => flatLayout_covered inside)
  intro result _
  exact ⟨_, rfl⟩

theorem flatItems_length : (flatItems shape owner).length = (flatLayout shape owner).arity := rfl

/-- The second step finishes the flat tuple of a narrow shape with one owner with a transform. -/
theorem postProcess_ok (flattener : Flattener) {P : Expr} (shaped : Shape.classify? P = some shape)
    (owned : shape.owners = [owner]) (narrow : shape.arity ≤ maxProjectionFields) :
    let tuple := Expr.mkTuple ((flatItems shape owner).map Expr.ty) (flatItems shape owner)
    ∃ flat transform, flattener.postProcess ⟨tuple, some ⟨shape, flatLayout shape owner⟩⟩ tuple =
      .ok ⟨flat, some transform⟩ := by
  intro tuple
  have least : 2 ≤ (flatItems shape owner).length :=
    two_le_flatItems_length (exists_collectionField_of_owners (by simp [owned]))
  have most : (flatLayout shape owner).arity ≤ 6 := flatLayout_arity_le narrow
  unfold Flattener.postProcess
  simp only [tuple, flatItems_length, bne_self_eq_false, Bool.false_eq_true, if_false]
  generalize narrowed : List.foldl _ (flatItems shape owner) _ = items
  have counted : items.length = (flatLayout shape owner).arity := by
    rw [← narrowed, length_foldl_set, flatItems_length]
  have flatLength : (flatItems shape owner).length = (flatLayout shape owner).arity := flatItems_length
  rw [tupleOf_eq_ok (by omega) (by omega)]
  have rowType : (items.map Expr.ty).length = (flatLayout shape owner).arity := by rw [List.length_map, counted]
  obtain ⟨transform, built⟩ := buildTransform_ok shaped owned narrow flattener.policy flattener.rowsParameter rowType
  exact ⟨.mkTuple (items.map Expr.ty) items, transform, by simp [built, bind, Except.bind, pure, Except.pure]⟩

end FlatLayout

/-- A shape has an owner exactly when it has a collection field. -/
theorem owners_eq_nil_iff {shape : Shape} : shape.owners = [] ↔ shape.collectionFields = [] := by
  constructor
  · intro unowned
    rw [List.eq_nil_iff_forall_not_mem]
    rintro ⟨index, ty⟩ member
    obtain ⟨inside, collection, -⟩ := mem_collectionFields.mp member
    rw [Shape.owners, firstById_eq_nil, List.flatMap_eq_nil_iff] at unowned
    have owning := unowned _ (List.getElem_mem inside)
    simp only [collection, if_true] at owning
    simp [isCollectionField, owning] at collection
  · intro none
    by_contra owned
    obtain ⟨field, member, collection⟩ := exists_collectionField_of_owners owned
    obtain ⟨index, inside, rfl⟩ := List.getElem_of_mem member
    exact List.ne_nil_of_mem (mem_collectionFields.mpr ⟨inside, collection, rfl⟩) none

/-- What flattening answers, read off the projection's shape alone. -/
def FlattenOutcome (fallback : Bool) (P : Expr) (result : Except FlattenError FlatPlan) : Prop :=
  match Shape.classify? P with
  | none => result = .ok ⟨P, none⟩
  | some shape =>
    if 1 < shape.owners.length then
      result = if fallback then .ok ⟨P, none⟩ else .error (.unsupportedProjection (shape.owners.map SourceRef.label))
    else if shape.collectionFields.isEmpty then result = .ok ⟨P, none⟩
    else if maxProjectionFields < shape.arity then
      result = .error (.unsupportedArity shape.arity 1 maxProjectionFields)
    else ∃ flat transform, result = .ok ⟨flat, some transform⟩

section Steps

variable (flattener : Flattener) {P : Expr}

theorem flatten_of_preProcess_error {e : FlattenError} (refused : preProcess P = .error e) :
    flattener.flatten P = .error e := by
  simp [Flattener.flatten, refused, bind, Except.bind]

theorem flatten_of_preProcess_unchanged (unchanged : preProcess P = .ok ⟨P, none⟩) :
    flattener.flatten P = .ok ⟨P, none⟩ := by
  simp [Flattener.flatten, unchanged, Flattener.postProcess, bind, Except.bind, pure, Except.pure]

end Steps

/-- A shape that is neither of several owners nor without collection fields has one owner. -/
theorem owners_eq_singleton {shape : Shape} (several : ¬1 < shape.owners.length)
    (unowned : ¬shape.collectionFields.isEmpty) : ∃ owner, shape.owners = [owner] := by
  apply List.length_eq_one_iff.mp
  have owned : shape.owners ≠ [] := fun none => unowned (List.isEmpty_iff.mpr (owners_eq_nil_iff.mp none))
  have := List.length_pos_iff.mpr owned
  omega

/-- Flattening answers as the shape decides. -/
theorem flatten_outcome (flattener : Flattener) (P : Expr) : FlattenOutcome false P (flattener.flatten P) := by
  unfold FlattenOutcome
  cases shaped : Shape.classify? P with
  | none => exact flatten_of_preProcess_unchanged flattener (preProcess_of_classify_none shaped)
  | some shape =>
    dsimp only
    by_cases several : 1 < shape.owners.length
    · rw [if_pos several, if_neg Bool.false_ne_true]
      exact flatten_of_preProcess_error flattener (preProcess_of_owners_several shaped several)
    rw [if_neg several]
    by_cases unowned : shape.collectionFields.isEmpty
    · rw [if_pos unowned]
      exact flatten_of_preProcess_unchanged flattener
        (preProcess_of_owners_nil shaped (owners_eq_nil_iff.mpr (List.isEmpty_iff.mp unowned)))
    rw [if_neg unowned]
    obtain ⟨owner, single⟩ := owners_eq_singleton several unowned
    by_cases wide : maxProjectionFields < shape.arity
    · rw [if_pos wide]
      exact flatten_of_preProcess_error flattener (preProcess_of_wide shaped single wide)
    rw [if_neg wide]
    obtain ⟨flat, transform, finished⟩ := postProcess_ok flattener shaped single (Nat.le_of_not_lt wide)
    refine ⟨flat, transform, ?_⟩
    simp only [Flattener.flatten, preProcess_of_owner shaped single (Nat.le_of_not_lt wide), bind, Except.bind]
    exact finished

/-- Planning answers as flattening does, except that several sources fall back to the projection
unchanged when `fallback` is set. -/
theorem plan_outcome (flattener : Flattener) (fallback : Bool) (P : Expr) :
    FlattenOutcome fallback P (flattener.plan fallback P) := by
  have flattened := flatten_outcome flattener P
  unfold FlattenOutcome at flattened ⊢
  unfold Flattener.plan
  cases shaped : Shape.classify? P with
  | none =>
    simp only [shaped] at flattened
    rw [flattened]
  | some shape =>
    simp only [shaped] at flattened ⊢
    by_cases several : 1 < shape.owners.length
    · rw [if_pos several, if_neg Bool.false_ne_true] at flattened
      rw [if_pos several, flattened]
    rw [if_neg several] at flattened ⊢
    by_cases unowned : shape.collectionFields.isEmpty
    · rw [if_pos unowned] at flattened ⊢
      rw [flattened]
    rw [if_neg unowned] at flattened ⊢
    by_cases wide : maxProjectionFields < shape.arity
    · rw [if_pos wide] at flattened ⊢
      rw [flattened]
    rw [if_neg wide] at flattened ⊢
    obtain ⟨flat, transform, finished⟩ := flattened
    exact ⟨flat, transform, by rw [finished]⟩

/-- Flattening and planning answer exactly as the shape decides: the refusals carry the owners'
labels or the shape's arity, and no other failure is reachable. -/
theorem flatten_plan_outcome (flattener : Flattener) (config : Config.FlattenConfig) (P : Expr) :
    FlattenOutcome false P (flattener.flatten P) ∧
      FlattenOutcome config.fallbackOnUnsupported P (Plan.planProjection config P) :=
  ⟨flatten_outcome flattener P, plan_outcome (Plan.flattenerOf config) config.fallbackOnUnsupported P⟩

end FlatProjection.Flatten
