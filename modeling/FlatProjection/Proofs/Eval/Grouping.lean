import FlatProjection.Eval.Interpreter
/-
Grouping by value equality, which is symmetric and transitive but not reflexive.
-/

namespace FlatProjection.Number.Binary64

theorem sameValue_comm (x y : Binary64) : x.sameValue y = y.sameValue x := by
  unfold sameValue
  rw [Bool.or_comm, Bool.and_comm, Bool.beq_comm]

theorem sameValue_eq_true {x y : Binary64} :
    x.sameValue y = true ↔ x.isNaN = false ∧ y.isNaN = false ∧ (x.isZero = true ∧ y.isZero = true ∨ x = y) := by
  unfold sameValue
  by_cases nan : (x.isNaN || y.isNaN) = true
  · rw [if_pos nan]
    simp only [Bool.or_eq_true] at nan
    constructor
    · intro h
      cases h
    · rintro ⟨nx, ny, -⟩
      rcases nan with n | n <;> simp_all
  · rw [if_neg nan]
    simp only [Bool.or_eq_true, not_or, Bool.not_eq_true] at nan
    by_cases zero : (x.isZero && y.isZero) = true
    · rw [if_pos zero]
      simp only [Bool.and_eq_true] at zero
      exact ⟨fun _ => ⟨nan.1, nan.2, .inl zero⟩, fun _ => rfl⟩
    · rw [if_neg zero, beq_iff_eq]
      constructor
      · intro same
        refine ⟨nan.1, nan.2, .inr ?_⟩
        cases x
        cases y
        cases same
        rfl
      · rintro ⟨-, -, both | rfl⟩
        · simp [both.1, both.2] at zero
        · rfl

/-- A number that is not a NaN equals itself. -/
theorem sameValue_self {x : Binary64} (number : x.isNaN = false) : x.sameValue x = true :=
  sameValue_eq_true.mpr ⟨number, number, .inr rfl⟩

theorem sameValue_trans {x y z : Binary64} (first : x.sameValue y = true) (second : y.sameValue z = true) :
    x.sameValue z = true := by
  rw [sameValue_eq_true] at *
  obtain ⟨nx, ny, zeros | rfl⟩ := first
  · obtain ⟨-, nz, zeros' | rfl⟩ := second
    · exact ⟨nx, nz, .inl ⟨zeros.1, zeros'.2⟩⟩
    · exact ⟨nx, nz, .inl zeros⟩
  · exact second

end FlatProjection.Number.Binary64

namespace FlatProjection.Eval.Value

mutual

theorem beq_comm : ∀ (a b : Value), a.beq b = b.beq a
  | .null, b | .int _, b | .float _, b | .bool _, b | .text _, b => by
    cases b <;> simp [beq, BEq.comm, Number.Binary64.sameValue_comm]
  | .record _ fields, b => by cases b <;> simp [beq, BEq.comm, fieldsBeq_comm fields]
  | .tuple items, b | .list items, b | .set items, b => by cases b <;> simp [beq, itemsBeq_comm items]
  | .group key values, b => by cases b <;> simp [beq, beq_comm key, itemsBeq_comm values]

theorem itemsBeq_comm : ∀ (as bs : List Value), itemsBeq as bs = itemsBeq bs as
  | [], bs => by cases bs <;> rfl
  | a :: as, bs => by cases bs <;> simp [itemsBeq, beq_comm a, itemsBeq_comm as]

theorem fieldsBeq_comm : ∀ (as bs : List (String × Value)), fieldsBeq as bs = fieldsBeq bs as
  | [], bs => by cases bs <;> rfl
  | (_, a) :: as, bs => by
    cases bs with
    | nil => rfl
    | cons b bs => simp [fieldsBeq, BEq.comm, beq_comm a, fieldsBeq_comm as, Bool.and_assoc]

end

mutual

theorem beq_trans : ∀ {a b c : Value}, a.beq b = true → b.beq c = true → a.beq c = true
  | .null, b, c, first, second | .int _, b, c, first, second | .bool _, b, c, first, second
  | .text _, b, c, first, second => by
    cases b <;> cases c <;> simp_all [beq]
  | .float _, b, c, first, second => by
    cases b <;> cases c <;> simp only [beq, Bool.false_eq_true] at first second ⊢
    exact Number.Binary64.sameValue_trans first second
  | .record _ fields, b, c, first, second => by
    cases b <;> cases c <;> simp only [beq, Bool.false_eq_true, Bool.and_eq_true, beq_iff_eq]
      at first second ⊢
    exact ⟨first.1.trans second.1, fieldsBeq_trans first.2 second.2⟩
  | .tuple items, b, c, first, second | .list items, b, c, first, second
  | .set items, b, c, first, second => by
    cases b <;> cases c <;> simp only [beq, Bool.false_eq_true] at first second ⊢
    exact itemsBeq_trans first second
  | .group key values, b, c, first, second => by
    cases b <;> cases c <;> simp only [beq, Bool.false_eq_true, Bool.and_eq_true] at first second ⊢
    exact ⟨beq_trans first.1 second.1, itemsBeq_trans first.2 second.2⟩

theorem itemsBeq_trans : ∀ {as bs cs : List Value}, itemsBeq as bs = true → itemsBeq bs cs = true →
    itemsBeq as cs = true
  | [], bs, cs, first, second => by cases bs <;> cases cs <;> simp_all [itemsBeq]
  | a :: as, bs, cs, first, second => by
    cases bs <;> cases cs <;> simp only [itemsBeq, Bool.false_eq_true, Bool.and_eq_true] at first second ⊢
    exact ⟨beq_trans first.1 second.1, itemsBeq_trans first.2 second.2⟩

theorem fieldsBeq_trans : ∀ {as bs cs : List (String × Value)}, fieldsBeq as bs = true →
    fieldsBeq bs cs = true → fieldsBeq as cs = true
  | [], bs, cs, first, second => by cases bs <;> cases cs <;> simp_all [fieldsBeq]
  | (_, a) :: as, bs, cs, first, second => by
    cases bs <;> cases cs <;> simp only [fieldsBeq, Bool.false_eq_true, Bool.and_eq_true, beq_iff_eq] at first second ⊢
    exact ⟨⟨first.1.1.trans second.1.1, beq_trans first.1.2 second.1.2⟩, fieldsBeq_trans first.2 second.2⟩

end

end FlatProjection.Eval.Value

namespace FlatProjection.Eval

/-- Equality of values relates values symmetrically and transitively. -/
instance : PartialEquivBEq Value where
  symm equal := (Value.beq_comm _ _).symm.trans equal
  trans := Value.beq_trans

namespace Value

mutual

/-- Whether no number inside a value is a NaN. -/
def nanFree : Value → Bool
  | .float x => !x.isNaN
  | .record _ fields => fieldsNanFree fields
  | .tuple items | .list items | .set items => itemsNanFree items
  | .group key values => key.nanFree && itemsNanFree values
  | .null | .int _ | .bool _ | .text _ => true

/-- Whether no number inside some values is a NaN. -/
def itemsNanFree : List Value → Bool
  | [] => true
  | v :: rest => v.nanFree && itemsNanFree rest

/-- Whether no number inside some record fields is a NaN. -/
def fieldsNanFree : List (String × Value) → Bool
  | [] => true
  | (_, v) :: rest => v.nanFree && fieldsNanFree rest

end

mutual

/-- A value without NaNs equals itself. -/
theorem beq_self_of_nanFree : ∀ {v : Value}, v.nanFree = true → v.beq v = true
  | .float _, finite => by simpa [beq, nanFree] using Number.Binary64.sameValue_self (by simpa [nanFree] using finite)
  | .record _ fields, finite => by simpa [beq, nanFree] using fieldsBeq_self_of_nanFree (by simpa [nanFree] using finite)
  | .tuple items, finite | .list items, finite | .set items, finite => by
    simpa [beq, nanFree] using itemsBeq_self_of_nanFree (by simpa [nanFree] using finite)
  | .group key values, finite => by
    simp only [nanFree, Bool.and_eq_true] at finite
    simp [beq, beq_self_of_nanFree finite.1, itemsBeq_self_of_nanFree finite.2]
  | .null, _ | .int _, _ | .bool _, _ | .text _, _ => by simp [beq]

theorem itemsBeq_self_of_nanFree : ∀ {items : List Value}, itemsNanFree items = true → itemsBeq items items = true
  | [], _ => rfl
  | _ :: _, finite => by
    simp only [itemsNanFree, Bool.and_eq_true] at finite
    simp [itemsBeq, beq_self_of_nanFree finite.1, itemsBeq_self_of_nanFree finite.2]

theorem fieldsBeq_self_of_nanFree : ∀ {fields : List (String × Value)},
    fieldsNanFree fields = true → fieldsBeq fields fields = true
  | [], _ => rfl
  | (_, _) :: _, finite => by
    simp only [fieldsNanFree, Bool.and_eq_true] at finite
    simp [fieldsBeq, beq_self_of_nanFree finite.1, fieldsBeq_self_of_nanFree finite.2]

end

theorem itemsNanFree_iff {items : List Value} : itemsNanFree items = true ↔ ∀ v ∈ items, v.nanFree = true := by
  induction items with
  | nil => simp [itemsNanFree]
  | cons v rest ih => simp [itemsNanFree, ih]

end Value

section Grouping

variable {α : Type} (key value : α → Value)

/-- Rows grouped by key, in the order the keys first appear: each group is its first row and,
with it, every later row whose key equals the first row's key. -/
def groupRows : List α → List (α × List α)
  | [] => []
  | row :: rest =>
    (row, row :: rest.filter fun other => key row == key other) ::
      groupRows (rest.filter fun other => !(key row == key other))
termination_by rows => rows.length
decreasing_by
  simp only [List.length_cons, List.length_unattach]
  exact Nat.lt_succ_of_le (Nat.le_trans (List.length_filter_le _ _) (Nat.le_of_eq List.length_attach))

/-- One step of `GroupBy`'s fold: the row's value joins the group of the row's key. -/
def groupStep (groups : List (Value × List Value)) (row : α) : List (Value × List Value) :=
  addToGroup groups (key row) (value row)

theorem groupRows_cons (row : α) (rest : List α) :
    groupRows key (row :: rest) =
      (row, row :: rest.filter fun other => key row == key other) ::
        groupRows key (rest.filter fun other => !(key row == key other)) :=
  groupRows.eq_2 key row rest

/-- A new group's key is the added key; the others are kept. -/
theorem key_mem_addToGroup {groups : List (Value × List Value)} {k : Value} {v : Value}
    {entry : Value × List Value} (member : entry ∈ addToGroup groups k v) :
    (∃ other ∈ groups, other.1 = entry.1) ∨ entry.1 = k := by
  unfold addToGroup at member
  split at member
  · obtain ⟨⟨k', values⟩, stays, rfl⟩ := List.mem_map.mp member
    left
    refine ⟨(k', values), stays, ?_⟩
    dsimp only
    split <;> rfl
  · rcases List.mem_append.mp member with stays | added
    · exact .inl ⟨entry, stays, rfl⟩
    · simp only [List.mem_singleton] at added
      exact .inr (by rw [added])

/-- A key that the first group's key does not equal leaves that group alone. -/
theorem addToGroup_cons_of_ne {k : Value} {values : List Value} {groups : List (Value × List Value)}
    {key' v : Value} (apart : (k == key') = false) :
    addToGroup ((k, values) :: groups) key' v = (k, values) :: addToGroup groups key' v := by
  unfold addToGroup
  simp only [List.any_cons, apart, Bool.false_or]
  split <;> simp [apart]

/-- A key that the first group's key equals joins that group, and no other group matches it
when no other group's key equals the first one. -/
theorem addToGroup_cons_of_eq {k : Value} {values : List Value} {groups : List (Value × List Value)}
    {key' v : Value} (same : (k == key') = true) (apart : ∀ entry ∈ groups, (entry.1 == k) = false) :
    addToGroup ((k, values) :: groups) key' v = (k, values ++ [v]) :: groups := by
  have untouched : ∀ entry ∈ groups, (entry.1 == key') = false := by
    intro entry member
    -- an entry equal to the key would, by transitivity, equal the first group's key
    cases equal : entry.1 == key'
    · rfl
    · have := BEq.trans equal (BEq.symm same)
      rw [apart entry member] at this
      cases this
  unfold addToGroup
  simp only [List.any_cons, same, Bool.true_or, if_true, List.map_cons]
  congr 1
  refine (List.map_congr_left ?_).trans (List.map_id groups)
  intro entry member
  simp [untouched _ member]

/-- The fold with a first group whose key no other group's key equals: the rows whose key
equals the first group's key join it, and the others are folded into the rest. -/
theorem foldl_groupStep_cons (rows : List α) :
    ∀ (k : Value) (values : List Value) (groups : List (Value × List Value)),
      (∀ entry ∈ groups, (entry.1 == k) = false) →
      rows.foldl (groupStep key value) ((k, values) :: groups) =
        (k, values ++ (rows.filter fun row => k == key row).map value) ::
          (rows.filter fun row => !(k == key row)).foldl (groupStep key value) groups := by
  induction rows with
  | nil => intro k values groups _; simp
  | cons row rest ih =>
    intro k values groups apart
    cases same : k == key row with
    | true =>
      have joined : groupStep key value ((k, values) :: groups) row = (k, values ++ [value row]) :: groups :=
        addToGroup_cons_of_eq same apart
      rw [List.foldl_cons, joined, ih k _ groups apart]
      simp [same]
    | false =>
      have kept : ∀ entry ∈ groupStep key value groups row, (entry.1 == k) = false := by
        intro entry member
        rcases key_mem_addToGroup member with ⟨other, stays, sameKey⟩ | added
        · rw [← sameKey]
          exact apart other stays
        · rw [added, BEq.comm]
          exact same
      have passed : groupStep key value ((k, values) :: groups) row =
          (k, values) :: groupStep key value groups row :=
        addToGroup_cons_of_ne same
      rw [List.foldl_cons, passed, ih k values _ kept]
      simp [same]

/-- `GroupBy`'s fold computes the grouping: one group per class of keys, in the order the
keys first appear, holding the values of its rows in order. -/
theorem foldl_groupStep_eq_groupRows (rows : List α) :
    rows.foldl (groupStep key value) [] =
      (groupRows key rows).map fun group => (key group.1, group.2.map value) := by
  induction rows using groupRows.induct key with
  | case1 => rw [groupRows.eq_1]; rfl
  | case2 row rest ih =>
    simp only [List.unattach_filter, List.unattach_attach] at ih
    have first : groupStep key value [] row = [(key row, [value row])] := by
      simp [groupStep, addToGroup]
    rw [List.foldl_cons, first, foldl_groupStep_cons key value rest (key row) [value row] [] (by simp), ih,
      groupRows_cons]
    simp

/-- Grouping the images of rows is grouping the rows by the composed key. -/
theorem groupRows_map {β : Type} (f : β → α) (rows : List β) :
    groupRows key (rows.map f) = (groupRows (key ∘ f) rows).map fun group => (f group.1, group.2.map f) := by
  induction rows using groupRows.induct (key ∘ f) with
  | case1 => simp [groupRows.eq_1]
  | case2 row rest ih =>
    simp only [List.unattach_filter, List.unattach_attach, Function.comp_def] at ih
    rw [List.map_cons, groupRows_cons, groupRows_cons, List.filter_map, List.filter_map]
    simp only [Function.comp_def] at ih ⊢
    simp [ih]

/-- A block of rows that all have one key, a key equal to itself, followed by rows whose keys it
does not equal, is grouped as that block and then as the rest is grouped. -/
theorem groupRows_block_append {k : Value} {first : α} {rest later : List α}
    (keyed : ∀ row ∈ first :: rest, key row = k) (self : (k == k) = true)
    (foreign : ∀ row ∈ later, (k == key row) = false) :
    groupRows key (first :: rest ++ later) = (first, first :: rest) :: groupRows key later := by
  have firstKey : key first = k := keyed first List.mem_cons_self
  have own : ∀ row ∈ rest, key row = k := fun row member => keyed row (List.mem_cons_of_mem _ member)
  rw [List.cons_append, groupRows_cons, firstKey, List.filter_append, List.filter_append,
    List.filter_eq_self.mpr (fun row member => by rw [own row member]; exact self),
    List.filter_eq_nil_iff.mpr (fun row member => by rw [foreign row member]; exact Bool.false_ne_true),
    List.filter_eq_nil_iff.mpr (fun row member => by rw [own row member, self]; exact Bool.false_ne_true),
    List.filter_eq_self.mpr (fun row member => by rw [foreign row member]; rfl)]
  simp

end Grouping

end FlatProjection.Eval
