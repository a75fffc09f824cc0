import FlatProjection.Proofs.Flatten.Regroup
/-
What `GroupBy` gives over a whole source: one group per class of keys, in first-seen order.
-/

namespace FlatProjection.Eval

section Duplicates

variable {α : Type} [BEq α]

/-- Erasing duplicates keeps a sublist. -/
theorem eraseDups_sublist : ∀ (xs : List α), xs.eraseDups.Sublist xs
  | [] => List.Sublist.slnil
  | x :: rest => by
    rw [List.eraseDups_cons]
    have smaller := eraseDups_sublist (rest.filter fun other => !other == x)
    exact (smaller.trans List.filter_sublist).cons_cons x
termination_by xs => xs.length
decreasing_by exact Nat.lt_succ_of_le (List.length_filter_le _ _)

/-- Under a symmetric equality, the values left after erasing duplicates are pairwise unequal. -/
theorem eraseDups_pairwise [PartialEquivBEq α] : ∀ (xs : List α), xs.eraseDups.Pairwise fun a b => (a == b) = false
  | [] => List.Pairwise.nil
  | x :: rest => by
    rw [List.eraseDups_cons]
    refine List.Pairwise.cons (fun other kept => ?_) (eraseDups_pairwise (rest.filter fun other => !other == x))
    have differs := (List.mem_filter.mp ((eraseDups_sublist _).subset kept)).2
    rw [BEq.comm]
    simpa using differs
termination_by xs => xs.length
decreasing_by exact Nat.lt_succ_of_le (List.length_filter_le _ _)

end Duplicates

section Classes

variable {α : Type} (key : α → Value)

/-- A key equal to a key that differs from `row`'s key differs from `row`'s key too. -/
theorem beq_eq_false_of_beq {row other x : α} (apart : (key row == key other) = false)
    (same : (key x == key other) = true) : (key row == key x) = false := by
  cases equal : key row == key x
  · rfl
  · rw [BEq.trans equal same] at apart
    cases apart

/-- The rows of the rest whose key equals a key of the rest are those of the whole list: the
first row's key differs from every key left after removing its own class. -/
theorem filter_rest_eq {row : α} {rest : List α} {k : Value}
    (kept : k ∈ (rest.filter fun other => !(key row == key other)).map key) :
    ((rest.filter fun other => !(key row == key other)).filter fun x => key x == k) =
      (row :: rest).filter fun x => key x == k := by
  obtain ⟨other, inRest, rfl⟩ := List.mem_map.mp kept
  have apart : (key row == key other) = false := by simpa using (List.mem_filter.mp inRest).2
  rw [List.filter_cons, if_neg (by rw [apart]; exact Bool.false_ne_true), List.filter_filter]
  apply List.filter_congr
  intro x _
  cases same : key x == key other
  · simp
  · simp [beq_eq_false_of_beq key apart same]

/-- Grouping rows whose keys have no NaN: one group per key left after erasing duplicate keys,
holding exactly the rows whose key equals it. -/
theorem groupRows_eq_eraseDups (rows : List α) (finite : ∀ row ∈ rows, (key row).nanFree = true) :
    (groupRows key rows).map (fun group => (key group.1, group.2)) =
      (rows.map key).eraseDups.map fun k => (k, rows.filter fun row => key row == k) := by
  induction rows using groupRows.induct key with
  | case1 => simp [groupRows.eq_1]
  | case2 row rest ih =>
    simp only [List.unattach_filter, List.unattach_attach] at ih
    have self : (key row == key row) = true := Value.beq_self_of_nanFree (finite row List.mem_cons_self)
    have restKeys : ((rest.map key).filter fun k => !k == key row) =
        (rest.filter fun other => !(key row == key other)).map key := by
      rw [List.filter_map]
      congr 1
      exact List.filter_congr fun other _ => by simp [BEq.comm]
    have restFinite : ∀ other ∈ rest.filter (fun other => !(key row == key other)), (key other).nanFree = true :=
      fun other member => finite other (List.mem_cons_of_mem _ (List.mem_of_mem_filter member))
    rw [groupRows_cons, List.map_cons, List.map_cons, List.eraseDups_cons, restKeys, List.map_cons, ih restFinite]
    congr 1
    · -- the first group is the first row's class, the first row included
      simp only [List.filter_cons, self, if_true, BEq.comm (a := key row)]
    · refine List.map_congr_left fun k kept => ?_
      rw [filter_rest_eq key ((eraseDups_sublist _).subset kept)]

/-- The groups hold every row once. -/
theorem flatMap_groupRows_perm (rows : List α) : ((groupRows key rows).flatMap fun group => group.2).Perm rows := by
  induction rows using groupRows.induct key with
  | case1 => simp [groupRows.eq_1]
  | case2 row rest ih =>
    simp only [List.unattach_filter, List.unattach_attach] at ih
    rw [groupRows_cons, List.flatMap_cons, List.cons_append]
    exact ((List.perm_append_left_iff _).mpr ih |>.trans (List.filter_append_perm _ rest)).cons row

end Classes

section GroupBy

variable {scope : Scope} {source : Expr} {xs : Value} {items : List Value}

/-- `GroupBy` fails with the first failing application: items in order, and each item's key
before its value. -/
theorem evaluate_groupBy_eq_error (evaluated : evaluate scope source = .ok xs) (listed : itemsOf xs = .ok items)
    {keyParam valueParam : Param} {key value : Expr} {before after : List Value} {item : Value} {err : EvalError}
    (split : items = before ++ item :: after)
    (earlier : ∀ y ∈ before, (∃ k, evaluate ((keyParam.name, y) :: scope) key = .ok k) ∧
      ∃ v, evaluate ((valueParam.name, y) :: scope) value = .ok v)
    (failing : evaluate ((keyParam.name, item) :: scope) key = .error err ∨
      (∃ k, evaluate ((keyParam.name, item) :: scope) key = .ok k) ∧
        evaluate ((valueParam.name, item) :: scope) value = .error err) :
    evaluate scope (.groupBy source keyParam key valueParam value) = .error err := by
  have folded : items.foldlM (fun groups item => do
      let k ← evaluate ((keyParam.name, item) :: scope) key
      let v ← evaluate ((valueParam.name, item) :: scope) value
      pure (addToGroup groups k v)) [] = .error err := by
    rw [split]
    apply foldlM_eq_error_of_first
    · intro groups
      rcases failing with keyFails | ⟨⟨k, keyed⟩, valueFails⟩
      · simp [keyFails, bind, Except.bind]
      · simp [keyed, valueFails, bind, Except.bind]
    · intro groups y member
      obtain ⟨⟨k, keyed⟩, ⟨v, valued⟩⟩ := earlier y member
      exact ⟨addToGroup groups k v, by simp [keyed, valued, bind, Except.bind, pure, Except.pure]⟩
  simp only [bind, Except.bind] at folded
  simp only [evaluate, evaluated, listed, bind, Except.bind]
  rw [folded]

/-- `GroupBy` groups by first occurrence, without loss or duplication, or fails with the first
failure of its lambdas. -/
theorem evaluate_groupBy_first_occurrence (evaluated : evaluate scope source = .ok xs)
    (listed : itemsOf xs = .ok items) (keyParam : Param) (key : Expr) (valueParam : Param) (value : Expr) :
    (∀ keyOf valueOf : Value → Value,
      (∀ item ∈ items, evaluate ((keyParam.name, item) :: scope) key = .ok (keyOf item) ∧ (keyOf item).nanFree = true) →
      (∀ item ∈ items, evaluate ((valueParam.name, item) :: scope) value = .ok (valueOf item)) →
        evaluate scope (.groupBy source keyParam key valueParam value) =
            .ok (.list ((items.map keyOf).eraseDups.map fun k =>
              .group k ((items.filter fun item => keyOf item == k).map valueOf))) ∧
          (items.map keyOf).eraseDups.Pairwise (fun k k' => (k == k') = false) ∧
          ((items.map keyOf).eraseDups.flatMap fun k => items.filter fun item => keyOf item == k).Perm items) ∧
    ∀ (before after : List Value) (item : Value) (err : EvalError), items = before ++ item :: after →
      (∀ y ∈ before, (∃ k, evaluate ((keyParam.name, y) :: scope) key = .ok k) ∧
        ∃ v, evaluate ((valueParam.name, y) :: scope) value = .ok v) →
      (evaluate ((keyParam.name, item) :: scope) key = .error err ∨
        (∃ k, evaluate ((keyParam.name, item) :: scope) key = .ok k) ∧
          evaluate ((valueParam.name, item) :: scope) value = .error err) →
      evaluate scope (.groupBy source keyParam key valueParam value) = .error err := by
  refine ⟨fun keyOf valueOf keyed valued => ?_,
    fun before after item err split earlier failing => evaluate_groupBy_eq_error evaluated listed split earlier failing⟩
  have finite : ∀ item ∈ items, (keyOf item).nanFree = true := fun item member => (keyed item member).2
  have classes := groupRows_eq_eraseDups keyOf items finite
  refine ⟨?_, eraseDups_pairwise _, ?_⟩
  · rw [evaluate_groupBy_of_itemsOf evaluated listed (fun item member => (keyed item member).1) valued]
    have valuesOf := congrArg (List.map fun group : Value × List Value => Value.group group.1 (group.2.map valueOf))
      classes
    simpa only [List.map_map, Function.comp_def] using congrArg (fun groups => Except.ok (Value.list groups)) valuesOf
  · have members := congrArg (List.flatMap fun group : Value × List Value => group.2) classes
    simp only [List.flatMap_map] at members
    rw [← members]
    exact flatMap_groupRows_perm keyOf items

/-- Rows keyed `b`, `a`, `b` group under `b` first, then `a`, each group holding its values in
order. -/
theorem evaluate_groupBy_first_occurrence_rows :
    let item : Param := ⟨"item", .tuple [.text, .int]⟩
    let rows : List Value := [.tuple [.text "b", .int 1], .tuple [.text "a", .int 2], .tuple [.text "b", .int 3]]
    evaluate [("rows", .list rows)]
        (.groupBy (.parameter ⟨"rows", .sequence .object⟩) item (.tupleItem (.parameter item) 0 .text)
          item (.tupleItem (.parameter item) 1 .int)) =
      .ok (.list [.group (.text "b") [.int 1, .int 3], .group (.text "a") [.int 2]]) := by
  intro item rows
  let keyOf : Value → Value := fun row => Flatten.cellAt (Flatten.rowCells row) 0
  let valueOf : Value → Value := fun row => Flatten.cellAt (Flatten.rowCells row) 1
  have grouped := (evaluate_groupBy_first_occurrence
    (show evaluate [("rows", .list rows)] (.parameter ⟨"rows", .sequence .object⟩) = .ok (.list rows) from rfl)
    (show itemsOf (.list rows) = .ok rows from rfl) item (.tupleItem (.parameter item) 0 .text)
    item (.tupleItem (.parameter item) 1 .int)).1 keyOf valueOf
    (by
      intro row member
      simp only [rows, List.mem_cons, List.not_mem_nil, or_false] at member
      rcases member with rfl | rfl | rfl <;> exact ⟨by with_unfolding_all rfl, rfl⟩)
    (by
      intro row member
      simp only [rows, List.mem_cons, List.not_mem_nil, or_false] at member
      rcases member with rfl | rfl | rfl <;> with_unfolding_all rfl)
  rw [grouped.1]
  with_unfolding_all rfl

end GroupBy

end FlatProjection.Eval
