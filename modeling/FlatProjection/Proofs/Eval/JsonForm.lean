import FlatProjection.Eval.Interpreter
import Mathlib.Data.List.Nodup
/-
Values and their JSON form: on what each side can hold, the two conversions are inverse.
-/

namespace FlatProjection.Json

mutual

/-- Whether every node of a document passes `test`. -/
def everyNode (test : Json → Bool) : Json → Bool
  | .arr items => test (.arr items) && itemsEvery test items
  | .obj members => test (.obj members) && membersEvery test members
  | doc => test doc

/-- Whether every node of every item passes `test`. -/
def itemsEvery (test : Json → Bool) : List Json → Bool
  | [] => true
  | doc :: rest => everyNode test doc && itemsEvery test rest

/-- Whether every node of every member value passes `test`. -/
def membersEvery (test : Json → Bool) : List (String × Json) → Bool
  | [] => true
  | (_, doc) :: rest => everyNode test doc && membersEvery test rest

end

/-- An object whose keys are distinct, as every object of a parsed document is; other nodes
pass. -/
def hasDistinctKeys : Json → Bool
  | .obj members => decide (members.map (·.1)).Nodup
  | _ => true

/-- An integer no larger than the largest signed 64-bit integer; other nodes pass. -/
def withinInt64 : Json → Bool
  | .int n => decide (n < Nat.pow 2 63)
  | _ => true

/-- A finite float, as every number of a parsed document is; other nodes pass. -/
def finiteFloat : Json → Bool
  | .float x => x.isFinite
  | _ => true

end FlatProjection.Json

namespace FlatProjection.Eval.Value

mutual

/-- A value of the kinds reading JSON gives. -/
def jsonShaped : Value → Bool
  | .null | .bool _ | .text _ => true
  | .int n => decide (-(Nat.pow 2 63 : Int) ≤ n ∧ n < Nat.pow 2 63)
  | .float x => x.isFinite
  | .list items => itemsShaped items
  | .record none fields => decide (fields.map (·.1)).Nodup && fieldsShaped fields
  | _ => false

/-- Whether every item is JSON shaped. -/
def itemsShaped : List Value → Bool
  | [] => true
  | v :: rest => jsonShaped v && itemsShaped rest

/-- Whether every field value is JSON shaped. -/
def fieldsShaped : List (String × Value) → Bool
  | [] => true
  | (_, v) :: rest => jsonShaped v && fieldsShaped rest

end

/-! ### Writing records -/

/-- Inserting members whose keys are new appends them in order. -/
theorem foldl_insert_of_nodup : ∀ (members acc : List (String × Json)),
    ((acc ++ members).map (·.1)).Nodup →
    members.foldl (fun members (name, j) => Json.insert members name j) acc = acc ++ members
  | [], acc, _ => by simp
  | (name, j) :: rest, acc, distinct => by
    have fresh : acc.any (·.1 == name) = false := by
      simp only [List.map_append, List.map_cons, List.nodup_append, List.nodup_cons] at distinct
      simp only [List.any_eq_false, beq_iff_eq]
      intro member listed same
      exact distinct.2.2 _ (List.mem_map_of_mem listed) _ List.mem_cons_self same
    have added : Json.insert acc name j = acc ++ [(name, j)] := by
      simp [Json.insert, fresh]
    simp only [List.foldl_cons]
    rw [added, foldl_insert_of_nodup rest (acc ++ [(name, j)]) (by simpa using distinct)]
    simp

theorem map_fst_fieldsJson : ∀ fields : List (String × Value), (fieldsJson fields).map (·.1) = fields.map (·.1)
  | [] => rfl
  | (name, v) :: rest => by simp [fieldsJson, map_fst_fieldsJson rest]

/-- A record with distinct field names is written as an object with one member per field, in
order. -/
theorem toJson_record_of_nodup (typeName : Option String) {fields : List (String × Value)}
    (distinct : (fields.map (·.1)).Nodup) : (Value.record typeName fields).toJson = .obj (fieldsJson fields) := by
  rw [toJson, foldl_insert_of_nodup (fieldsJson fields) [] (by simpa [map_fst_fieldsJson] using distinct)]
  rfl

/-! ### Reading back what was written -/

mutual

/-- A JSON-shaped value is read back from its JSON form. -/
theorem ofJson_toJson : ∀ v : Value, v.jsonShaped = true → ofJson v.toJson = v
  | .null, _ | .bool _, _ | .text _, _ => rfl
  | .float x, shaped => by
    rw [toJson, if_pos (show x.isFinite = true from shaped)]
    rfl
  | .int n, shaped => by
    have fits : n < Nat.pow 2 63 := by
      simp only [jsonShaped, decide_eq_true_eq] at shaped
      exact shaped.2
    rw [toJson, ofJson, if_pos fits]
  | .list items, shaped => by
    rw [toJson, ofJson, itemsOfJson_itemsJson items shaped]
  | .record none fields, shaped => by
    simp only [jsonShaped, Bool.and_eq_true, decide_eq_true_eq] at shaped
    rw [toJson_record_of_nodup none shaped.1, ofJson, membersOfJson_fieldsJson fields shaped.2]
  | .record (some _) _, shaped | .tuple _, shaped | .set _, shaped | .group .., shaped => by
    simp [jsonShaped] at shaped

theorem itemsOfJson_itemsJson : ∀ items : List Value, itemsShaped items = true →
    itemsOfJson (itemsJson items) = items
  | [], _ => rfl
  | v :: rest, shaped => by
    simp only [itemsShaped, Bool.and_eq_true] at shaped
    rw [itemsJson, itemsOfJson, ofJson_toJson v shaped.1, itemsOfJson_itemsJson rest shaped.2]

theorem membersOfJson_fieldsJson : ∀ fields : List (String × Value), fieldsShaped fields = true →
    membersOfJson (fieldsJson fields) = fields
  | [], _ => rfl
  | (name, v) :: rest, shaped => by
    simp only [fieldsShaped, Bool.and_eq_true] at shaped
    rw [fieldsJson, membersOfJson, ofJson_toJson v shaped.1, membersOfJson_fieldsJson rest shaped.2]

end

/-! ### Writing back what was read -/

mutual

/-- A document whose objects have distinct keys, whose integers fit the signed 64-bit range and
whose floats are finite is written back from the value read from it. -/
theorem toJson_ofJson : ∀ doc : Json, doc.everyNode Json.hasDistinctKeys = true →
    doc.everyNode Json.withinInt64 = true → doc.everyNode Json.finiteFloat = true → (ofJson doc).toJson = doc
  | .null, _, _, _ | .bool _, _, _, _ | .str _, _, _, _ => rfl
  | .float x, _, _, finite => by
    rw [ofJson, toJson, if_pos (show x.isFinite = true from finite)]
  | .int n, _, fits, _ => by
    have small : n < Nat.pow 2 63 := by
      simpa only [Json.everyNode, Json.withinInt64, decide_eq_true_eq] using fits
    rw [ofJson, if_pos small]
    rfl
  | .arr items, distinct, fits, finite => by
    simp only [Json.everyNode, Bool.and_eq_true] at distinct fits finite
    rw [ofJson, toJson, itemsJson_itemsOfJson items distinct.2 fits.2 finite.2]
  | .obj members, distinct, fits, finite => by
    simp only [Json.everyNode, Bool.and_eq_true] at distinct fits finite
    have keys : (members.map (·.1)).Nodup := by simpa [Json.hasDistinctKeys] using distinct.1
    have written := fieldsJson_membersOfJson members distinct.2 fits.2 finite.2
    have sameKeys : ((membersOfJson members).map (·.1)).Nodup := by
      rw [← map_fst_fieldsJson, written]
      exact keys
    rw [ofJson, toJson_record_of_nodup none sameKeys, written]

theorem itemsJson_itemsOfJson : ∀ items : List Json, Json.itemsEvery Json.hasDistinctKeys items = true →
    Json.itemsEvery Json.withinInt64 items = true → Json.itemsEvery Json.finiteFloat items = true →
      itemsJson (itemsOfJson items) = items
  | [], _, _, _ => rfl
  | doc :: rest, distinct, fits, finite => by
    simp only [Json.itemsEvery, Bool.and_eq_true] at distinct fits finite
    rw [itemsOfJson, itemsJson, toJson_ofJson doc distinct.1 fits.1 finite.1,
      itemsJson_itemsOfJson rest distinct.2 fits.2 finite.2]

theorem fieldsJson_membersOfJson : ∀ members : List (String × Json),
    Json.membersEvery Json.hasDistinctKeys members = true → Json.membersEvery Json.withinInt64 members = true →
      Json.membersEvery Json.finiteFloat members = true → fieldsJson (membersOfJson members) = members
  | [], _, _, _ => rfl
  | (name, doc) :: rest, distinct, fits, finite => by
    simp only [Json.membersEvery, Bool.and_eq_true] at distinct fits finite
    rw [membersOfJson, fieldsJson, toJson_ofJson doc distinct.1 fits.1 finite.1,
      fieldsJson_membersOfJson rest distinct.2 fits.2 finite.2]

end

theorem itemsOfJson_eq_map : ∀ items : List Json, itemsOfJson items = items.map ofJson
  | [] => rfl
  | doc :: rest => by rw [itemsOfJson, itemsOfJson_eq_map rest, List.map_cons]

end FlatProjection.Eval.Value

namespace FlatProjection.Eval

/-! ### Rows -/

/-- A row read from JSON: an inner array is a tuple of its cells, anything else the value read
from it. -/
theorem rowsOfJson_arr (items : List Json) :
    rowsOfJson (.arr items) = .ok (items.map fun item => match item with
      | .arr cells => .tuple (cells.map Value.ofJson)
      | other => Value.ofJson other) := by
  rw [rowsOfJson, Value.ofJson, Value.itemsOfJson_eq_map]
  dsimp only
  rw [List.map_map]
  congr 2
  funext item
  cases item with
  | arr cells => simp [Value.ofJson, Value.itemsOfJson_eq_map]
  | int n =>
    simp only [Function.comp_apply]
    by_cases small : n < Nat.pow 2 63
    · rw [Value.ofJson, if_pos small]
    · rw [Value.ofJson, if_neg small]
  | _ => simp [Value.ofJson]

/-- Rows are read exactly from an array. -/
theorem rowsOfJson_ok_iff (doc : Json) : (∃ rows, rowsOfJson doc = .ok rows) ↔ ∃ items, doc = .arr items := by
  constructor
  · rintro ⟨rows, read⟩
    cases doc with
    | arr items => exact ⟨items, rfl⟩
    | int n =>
      rw [rowsOfJson, Value.ofJson] at read
      by_cases small : n < Nat.pow 2 63
      · rw [if_pos small] at read
        cases read
      · rw [if_neg small] at read
        cases read
    | _ => simp [rowsOfJson, Value.ofJson] at read
  · rintro ⟨items, rfl⟩
    exact ⟨_, rowsOfJson_arr items⟩

/-- The JSON form of values round-trips on what each side can hold, and rows are read from an
array of arrays. -/
theorem json_conversion_round_trips :
    (∀ doc : Json, doc.everyNode Json.hasDistinctKeys = true → doc.everyNode Json.withinInt64 = true →
      doc.everyNode Json.finiteFloat = true → (Value.ofJson doc).toJson = doc) ∧
    (∀ v : Value, v.jsonShaped = true → Value.ofJson v.toJson = v) ∧
    (∀ doc : Json, (∃ rows, rowsOfJson doc = .ok rows) ↔ ∃ items, doc = .arr items) ∧
    (∀ items : List Json, rowsOfJson (.arr items) = .ok (items.map fun item => match item with
      | .arr cells => .tuple (cells.map Value.ofJson)
      | other => Value.ofJson other)) :=
  ⟨Value.toJson_ofJson, Value.ofJson_toJson, rowsOfJson_ok_iff, rowsOfJson_arr⟩

/-- An object of an integer, a text and an array is written back as read, and a record of a
negative integer and a list holding null is read back from its JSON form. -/
theorem json_conversion_round_trips_record :
    ((Json.obj [("Id", .int 7), ("Name", .str "Ann"), ("Tags", .arr [.str "a", .str "b"])]).everyNode
        Json.hasDistinctKeys = true ∧
      (Json.obj [("Id", .int 7), ("Name", .str "Ann"), ("Tags", .arr [.str "a", .str "b"])]).everyNode
        Json.withinInt64 = true ∧
      (Json.obj [("Id", .int 7), ("Name", .str "Ann"), ("Tags", .arr [.str "a", .str "b"])]).everyNode
        Json.finiteFloat = true ∧
      (Value.ofJson (.obj [("Id", .int 7), ("Name", .str "Ann"), ("Tags", .arr [.str "a", .str "b"])])).toJson =
        .obj [("Id", .int 7), ("Name", .str "Ann"), ("Tags", .arr [.str "a", .str "b"])]) ∧
    ((Value.record none [("Id", .int (-3)), ("Tags", .list [.text "a", .null])]).jsonShaped = true ∧
      Value.ofJson (Value.record none [("Id", .int (-3)), ("Tags", .list [.text "a", .null])]).toJson =
        .record none [("Id", .int (-3)), ("Tags", .list [.text "a", .null])]) :=
  ⟨⟨by decide, by decide, by decide, json_conversion_round_trips.1 _ (by decide) (by decide) (by decide)⟩,
    ⟨by decide, json_conversion_round_trips.2.1 _ (by decide)⟩⟩

end FlatProjection.Eval
