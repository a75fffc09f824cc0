import FlatProjection.Proofs.Json.Decoding
import FlatProjection.Proofs.Flatten.Outcome
import FlatProjection.Proofs.Eval.Equations
import FlatProjection.Plan.Basic
/-
The JSON form of plans decodes back to them, and whatever decodes is well formed.
-/

namespace FlatProjection

open Json

namespace ValueType

variable {α : Type}

mutual

/-- Every tuple type inside has an allowed arity. -/
def wellFormed : ValueType → Bool
  | .int | .float | .bool | .text | .object | .entity _ => true
  | .collection _ element | .sequence element => wellFormed element
  | .record _ members => membersWellFormed members
  | .tuple items =>
    tupleArityRange.1 ≤ items.length && items.length ≤ tupleArityRange.2 && itemsWellFormed items
  | .grouping key element => wellFormed key && wellFormed element

/-- Every type of the list is well formed. -/
def itemsWellFormed : List ValueType → Bool
  | [] => true
  | t :: rest => wellFormed t && itemsWellFormed rest

/-- Every member type is well formed. -/
def membersWellFormed : List (String × ValueType) → Bool
  | [] => true
  | (_, t) :: rest => wellFormed t && membersWellFormed rest

end

theorem itemsWellFormed_iff (items : List ValueType) :
    itemsWellFormed items = true ↔ ∀ t ∈ items, t.wellFormed = true := by
  induction items with
  | nil => simp [itemsWellFormed]
  | cons t rest ih => simp [itemsWellFormed, ih]

theorem membersWellFormed_iff (members : List (String × ValueType)) :
    membersWellFormed members = true ↔ ∀ member ∈ members, member.2.wellFormed = true := by
  induction members with
  | nil => simp [membersWellFormed]
  | cons member rest ih =>
    obtain ⟨name, t⟩ := member
    simp [membersWellFormed, ih]

theorem tupleOf_eq_ok {items : List ValueType}
    (arity : tupleArityRange.1 ≤ items.length ∧ items.length ≤ tupleArityRange.2) :
    tupleOf items = .ok (.tuple items) := by
  simp [tupleOf, checkArity, arity.1, arity.2, bind, Except.bind, pure, Except.pure]

/-! ### The JSON form of a well-formed type decodes back to it -/

theorem collectionKind_decode_toJson (kind : CollectionKind) :
    CollectionKind.decode kind.toJson = .ok kind := by
  cases kind <;> rfl

mutual

theorem decodeWith_toJson : ∀ (t : ValueType) (fuel : Nat), t.wellFormed = true →
    t.toJson.depth < fuel → decodeWith fuel t.toJson = .ok t
  | _, 0, _, deep => absurd deep (Nat.not_lt_zero _)
  | .int, _ + 1, _, _ | .float, _ + 1, _, _ | .bool, _ + 1, _, _ | .text, _ + 1, _, _
  | .object, _ + 1, _, _ | .entity _, _ + 1, _, _ => rfl
  | .collection kind element, fuel + 1, formed, deep => by
    simp only [toJson, Json.depth, membersDepth] at deep
    have inner := decodeWith_toJson element fuel formed (by omega)
    simp [decodeWith, toJson, variantOf, collectionKind_decode_toJson, inner]
  | .sequence element, fuel + 1, formed, deep => by
    simp only [toJson, Json.depth, membersDepth] at deep
    have inner := decodeWith_toJson element fuel formed (by omega)
    simp [decodeWith, toJson, variantOf, inner]
  | .record name members, fuel + 1, formed, deep => by
    simp only [toJson, Json.depth, membersDepth] at deep
    have inner := mapM_decodeMember_membersJson members fuel formed (by omega)
    cases name <;>
      simp [decodeWith, toJson, variantOf, inner, Except.map]
  | .tuple items, fuel + 1, formed, deep => by
    simp only [wellFormed, Bool.and_eq_true, decide_eq_true_eq] at formed
    simp only [toJson, Json.depth, membersDepth] at deep
    have inner := mapM_decodeWith_itemsJson items fuel formed.2 (by omega)
    simp [decodeWith, toJson, variantOf, inner, tupleOf_eq_ok formed.1, pure, Except.pure]
  | .grouping key element, fuel + 1, formed, deep => by
    simp only [wellFormed, Bool.and_eq_true] at formed
    simp only [toJson, Json.depth, membersDepth] at deep
    have keyed := decodeWith_toJson key fuel formed.1 (by omega)
    have inner := decodeWith_toJson element fuel formed.2 (by omega)
    simp [decodeWith, toJson, variantOf, keyed, inner]

theorem mapM_decodeWith_itemsJson : ∀ (items : List ValueType) (fuel : Nat),
    itemsWellFormed items = true → itemsDepth (itemsJson items) < fuel →
      (itemsJson items).mapM (decodeWith fuel) = .ok items
  | [], _, _, _ => rfl
  | t :: rest, fuel, formed, deep => by
    simp only [itemsWellFormed, Bool.and_eq_true] at formed
    simp only [itemsJson, itemsDepth] at deep
    have head := decodeWith_toJson t fuel formed.1 (by omega)
    have tail := mapM_decodeWith_itemsJson rest fuel formed.2 (by omega)
    simp [itemsJson, head, tail]

theorem mapM_decodeMember_membersJson : ∀ (members : List (String × ValueType)) (fuel : Nat),
    membersWellFormed members = true → itemsDepth (membersJson members) < fuel →
      (membersJson members).mapM (decodeMember (decodeWith fuel)) = .ok members
  | [], _, _, _ => rfl
  | (name, t) :: rest, fuel, formed, deep => by
    simp only [membersWellFormed, Bool.and_eq_true] at formed
    simp only [membersJson, itemsDepth, Json.depth, membersDepth] at deep
    have typed := decodeWith_toJson t fuel formed.1 (by omega)
    have head : decodeMember (decodeWith fuel) (.obj [("name", .str name), ("ty", t.toJson)]) =
        .ok (name, t) := by
      simp [decodeMember, typed]
    have tail := mapM_decodeMember_membersJson rest fuel formed.2 (by omega)
    simp [membersJson, head, tail]

end

/-! ### Any fuel above the depth gives the same answer -/

theorem depth_lt_of_variantOf {doc content : Json} {tag : String}
    (found : variantOf doc = .ok (tag, some content)) : content.depth < doc.depth := by
  unfold variantOf at found
  split at found
  · cases found
  · cases found
    simp [Json.depth, membersDepth]
  · cases found
  · cases found

theorem agreeBelow_decodeMember {bound : Nat} {d d' : Decoder ValueType}
    (agree : AgreeBelow bound d d') : AgreeBelow bound (decodeMember d) (decodeMember d') := by
  unfold ValueType.decodeMember
  exact AgreeBelow.decodeStructure fun fields below => by
    simp only [readField_congr agree (Nat.le_of_lt below)]

/-- Reading a type spends fuel only on levels the document has. -/
theorem decodeWith_eq_of_depth_lt : ∀ (fuel fuel' : Nat) (doc : Json), doc.depth < fuel →
    doc.depth < fuel' → decodeWith fuel doc = decodeWith fuel' doc
  | 0, _, _, deep, _ => absurd deep (Nat.not_lt_zero _)
  | _, 0, _, _, deep => absurd deep (Nat.not_lt_zero _)
  | fuel + 1, fuel' + 1, doc, deep, deep' => by
    -- the nested types are read with less fuel, on documents shallower than this one
    have agree : AgreeBelow doc.depth (decodeWith fuel) (decodeWith fuel') := fun sub below =>
      decodeWith_eq_of_depth_lt fuel fuel' sub (by omega) (by omega)
    simp only [decodeWith]
    cases found : variantOf doc with
    | error e => rfl
    | ok variant =>
      obtain ⟨tag, content⟩ := variant
      simp only [bind, Except.bind]
      cases content with
      | none => split <;> rfl
      | some content =>
        have shallow := depth_lt_of_variantOf found
        have members : ∀ (members : List (String × Json)), (Json.obj members).depth < doc.depth →
            ∀ key, readField members key (decodeWith fuel) = readField members key (decodeWith fuel') :=
          fun members below => readField_congr agree (Nat.le_of_lt below)
        split
        any_goals rfl
        · exact structContent_congr (fun fields below => by simp only [members fields below]) shallow
        · simp only [newtypeContent_some, agree content shallow]
        · have listed : ∀ (fields : List (String × Json)), (Json.obj fields).depth < doc.depth → ∀ key,
              readField fields key (Decoder.list (decodeMember (decodeWith fuel))) =
                readField fields key (Decoder.list (decodeMember (decodeWith fuel'))) :=
            fun fields below => readField_congr ((agreeBelow_decodeMember agree).list.mono (by omega)) (Nat.le_of_lt below)
          simp only [newtypeContent_some]
          exact AgreeBelow.decodeStructure (fun fields below => by simp only [listed fields below])
            content shallow
        · simp only [newtypeContent_some, agree.list content (by omega)]
        · exact structContent_congr (fun fields below => by simp only [members fields below]) shallow

theorem decodeWith_eq_decode {fuel : Nat} {doc : Json} (deep : doc.depth < fuel) :
    decodeWith fuel doc = decode doc :=
  decodeWith_eq_of_depth_lt fuel (doc.depth + 1) doc deep (Nat.lt_succ_self _)

/-! ### What decodes is well formed -/

theorem exists_of_list_eq_ok {d : Decoder α} {doc : Json} {vs : List α}
    (decoded : Decoder.list d doc = .ok vs) : ∀ v ∈ vs, ∃ item, d item = .ok v := by
  intro v mem
  cases doc with
  | arr items =>
    obtain ⟨item, -, found⟩ := exists_of_mapM_eq_ok decoded mem
    exact ⟨item, found⟩
  | null | bool _ | int _ | float _ | str _ | obj _ => cases decoded

theorem exists_of_decodeMember_eq_ok {d : Decoder ValueType} {doc : Json}
    {member : String × ValueType} (decoded : decodeMember d doc = .ok member) :
    ∃ item, d item = .ok member.2 := by
  obtain ⟨fields, built⟩ := exists_of_decodeStructure_eq_ok decoded
  obtain ⟨_, -, built⟩ := Except.bind_eq_ok.mp built
  obtain ⟨_, -, built⟩ := Except.bind_eq_ok.mp built
  obtain ⟨t, read, built⟩ := Except.bind_eq_ok.mp built
  cases built
  exact exists_of_need_eq_ok read

theorem tupleOf_eq_ok_iff {items : List ValueType} {t : ValueType} :
    tupleOf items = .ok t ↔
      t = .tuple items ∧ tupleArityRange.1 ≤ items.length ∧ items.length ≤ tupleArityRange.2 := by
  by_cases arity : tupleArityRange.1 ≤ items.length ∧ items.length ≤ tupleArityRange.2
  · rw [tupleOf_eq_ok arity]
    simp [arity, eq_comm]
  · have failed : ¬ (tupleArityRange.1 ≤ items.length && items.length ≤ tupleArityRange.2) = true := by
      simpa using arity
    simp [tupleOf, checkArity, failed, arity, bind, Except.bind]

theorem wellFormed_of_decodeWith : ∀ (fuel : Nat) {doc : Json} {t : ValueType},
    decodeWith fuel doc = .ok t → t.wellFormed = true
  | 0, _, _, decoded => by cases decoded
  | fuel + 1, doc, t, decoded => by
    have sub : ∀ {doc t}, decodeWith fuel doc = .ok t → t.wellFormed = true :=
      wellFormed_of_decodeWith fuel
    simp only [decodeWith] at decoded
    obtain ⟨⟨tag, content⟩, -, decoded⟩ := Except.bind_eq_ok.mp decoded
    split at decoded
    iterate 5
      · rw [Except.eq_of_seqRight_pure_eq_ok decoded]
        rfl
    · obtain ⟨name, -, built⟩ := Except.bind_eq_ok.mp decoded
      cases built
      rfl
    · obtain ⟨members, built⟩ := exists_of_structContent_eq_ok decoded
      obtain ⟨_, -, built⟩ := Except.bind_eq_ok.mp built
      obtain ⟨kind, -, built⟩ := Except.bind_eq_ok.mp built
      obtain ⟨element, read, built⟩ := Except.bind_eq_ok.mp built
      cases built
      obtain ⟨_, found⟩ := exists_of_need_eq_ok read
      simpa [wellFormed] using sub found
    · obtain ⟨element, read, built⟩ := Except.bind_eq_ok.mp decoded
      cases built
      obtain ⟨_, found⟩ := exists_of_newtypeContent_eq_ok read
      simpa [wellFormed] using sub found
    · obtain ⟨_, record⟩ := exists_of_newtypeContent_eq_ok decoded
      obtain ⟨members, built⟩ := exists_of_decodeStructure_eq_ok record
      obtain ⟨_, -, built⟩ := Except.bind_eq_ok.mp built
      obtain ⟨name, -, built⟩ := Except.bind_eq_ok.mp built
      obtain ⟨memberList, read, built⟩ := Except.bind_eq_ok.mp built
      cases built
      obtain ⟨_, listed⟩ := exists_of_need_eq_ok read
      simp only [wellFormed, membersWellFormed_iff]
      intro member mem
      obtain ⟨_, found⟩ := exists_of_list_eq_ok listed member mem
      obtain ⟨_, typed⟩ := exists_of_decodeMember_eq_ok found
      exact sub typed
    · obtain ⟨_, tupled⟩ := exists_of_newtypeContent_eq_ok decoded
      obtain ⟨tys, listed, tupled⟩ := Except.bind_eq_ok.mp tupled
      split at tupled
      · rename_i t' checked
        cases tupled
        obtain ⟨rfl, low, high⟩ := tupleOf_eq_ok_iff.mp checked
        simp only [wellFormed, low, high, decide_true, Bool.true_and, itemsWellFormed_iff]
        intro item mem
        obtain ⟨_, found⟩ := exists_of_list_eq_ok listed item mem
        exact sub found
      · cases tupled
    · obtain ⟨members, built⟩ := exists_of_structContent_eq_ok decoded
      obtain ⟨_, -, built⟩ := Except.bind_eq_ok.mp built
      obtain ⟨key, keyRead, built⟩ := Except.bind_eq_ok.mp built
      obtain ⟨element, read, built⟩ := Except.bind_eq_ok.mp built
      cases built
      obtain ⟨_, keyFound⟩ := exists_of_need_eq_ok keyRead
      obtain ⟨_, found⟩ := exists_of_need_eq_ok read
      simp [wellFormed, sub keyFound, sub found]
    · cases decoded

theorem wellFormed_of_decode {doc : Json} {t : ValueType} (decoded : decode doc = .ok t) :
    t.wellFormed = true :=
  wellFormed_of_decodeWith _ decoded

/-! ### Tuple types of another arity -/

theorem tupleOf_eq_error {items : List ValueType}
    (arity : ¬ (tupleArityRange.1 ≤ items.length ∧ items.length ≤ tupleArityRange.2)) :
    tupleOf items = .error ⟨items.length, tupleArityRange.1, tupleArityRange.2⟩ := by
  have failed : ¬ (tupleArityRange.1 ≤ items.length && items.length ≤ tupleArityRange.2) = true := by
    simpa using arity
  simp [tupleOf, checkArity, failed, bind, Except.bind]

/-- Items that each decode, read with any fuel above their depth, give as many types. -/
theorem exists_mapM_decodeWith {docs : List Json} {fuel : Nat} (deep : itemsDepth docs < fuel)
    (items : ∀ doc ∈ docs, ∃ t, decode doc = .ok t) :
    ∃ tys, docs.mapM (decodeWith fuel) = .ok tys ∧ tys.length = docs.length := by
  have each : ∀ doc ∈ docs, ∃ t, decodeWith fuel doc = .ok t := fun doc mem => by
    obtain ⟨t, found⟩ := items doc mem
    have := depth_le_itemsDepth mem
    exact ⟨t, (decodeWith_eq_decode (by omega)).trans found⟩
  obtain ⟨tys, listed⟩ := mapM_ok_of_forall each
  exact ⟨tys, listed, mapM_length listed⟩

theorem decodeWith_tuple_eq_error {docs : List Json} {fuel : Nat} (deep : itemsDepth docs < fuel)
    (items : ∀ doc ∈ docs, ∃ t, decode doc = .ok t)
    (arity : ¬ (tupleArityRange.1 ≤ docs.length ∧ docs.length ≤ tupleArityRange.2)) :
    decodeWith (fuel + 1) (.obj [("Tuple", .arr docs)]) =
      .error (.message (ArityError.message ⟨docs.length, tupleArityRange.1, tupleArityRange.2⟩)) := by
  obtain ⟨tys, listed, counted⟩ := exists_mapM_decodeWith deep items
  have failed : tupleOf tys = .error ⟨docs.length, tupleArityRange.1, tupleArityRange.2⟩ := by
    rw [← counted]
    exact tupleOf_eq_error (by rwa [counted])
  simp [decodeWith, variantOf, bind, Except.bind, listed, failed, throw, throwThe, MonadExceptOf.throw]

/-- A tuple type whose items decode but whose number is not an allowed arity fails with the
arity error. -/
theorem decode_tuple_eq_error {docs : List Json} (items : ∀ doc ∈ docs, ∃ t, decode doc = .ok t)
    (arity : ¬ (tupleArityRange.1 ≤ docs.length ∧ docs.length ≤ tupleArityRange.2)) :
    decode (.obj [("Tuple", .arr docs)]) =
      .error (.message (ArityError.message ⟨docs.length, tupleArityRange.1, tupleArityRange.2⟩)) := by
  have deep : (Json.obj [("Tuple", .arr docs)]).depth = itemsDepth docs + 2 := by
    simp [Json.depth, membersDepth]
  simp only [decode, deep]
  exact decodeWith_tuple_eq_error (by omega) items arity

/-- The items of a tuple construction's type are read the same way. -/
theorem decodeTupleItems_eq_error {docs : List Json} {fuel : Nat}
    (deep : (Json.arr docs).depth < fuel) (items : ∀ doc ∈ docs, ∃ t, decode doc = .ok t)
    (arity : ¬ (tupleArityRange.1 ≤ docs.length ∧ docs.length ≤ tupleArityRange.2)) :
    decodeTupleItems fuel (.arr docs) =
      .error (.message (ArityError.message ⟨docs.length, tupleArityRange.1, tupleArityRange.2⟩)) := by
  simp only [Json.depth] at deep
  obtain ⟨tys, listed, counted⟩ := exists_mapM_decodeWith (show itemsDepth docs < fuel by omega) items
  simp [decodeTupleItems, checkArity, listed, counted, arity, bind, Except.bind, throw, throwThe,
    MonadExceptOf.throw]

theorem decodeTupleItems_eq_ok_iff {fuel : Nat} {doc : Json} {tys : List ValueType} :
    decodeTupleItems fuel doc = .ok tys ↔ Decoder.list (decodeWith fuel) doc = .ok tys ∧
      tupleArityRange.1 ≤ tys.length ∧ tys.length ≤ tupleArityRange.2 := by
  unfold decodeTupleItems
  cases listed : Decoder.list (decodeWith fuel) doc with
  | error e => simp [bind, Except.bind]
  | ok items =>
    by_cases arity : tupleArityRange.1 ≤ items.length ∧ items.length ≤ tupleArityRange.2
    · simp [checkArity, arity, bind, Except.bind, pure, Except.pure]
      rintro rfl
      exact arity
    · simp [checkArity, arity, bind, Except.bind, throw, throwThe, MonadExceptOf.throw]
      rintro rfl low
      omega

end ValueType

/-! ### Expressions -/

namespace Literal

/-- Integer constants fit 64 signed bits. -/
def wellFormed : Literal → Bool
  | .int n => -(Nat.pow 2 63 : Int) ≤ n && n < Nat.pow 2 63
  | .null | .float _ | .bool _ | .text _ => true

theorem decode_toJson {lit : Literal} (formed : lit.wellFormed = true) :
    Literal.decode lit.toJson = .ok lit := by
  cases lit with
  | int n =>
    simp only [wellFormed, Bool.and_eq_true, decide_eq_true_eq] at formed
    simp [Literal.decode, Literal.toJson, variantOf,
      Decoder.int64_int formed.1 formed.2]
  | null | float _ | bool _ | text _ => rfl

theorem wellFormed_of_decode {doc : Json} {lit : Literal} (decoded : Literal.decode doc = .ok lit) :
    lit.wellFormed = true := by
  simp only [Literal.decode] at decoded
  obtain ⟨⟨tag, content⟩, -, decoded⟩ := Except.bind_eq_ok.mp decoded
  split at decoded
  · rw [Except.eq_of_seqRight_pure_eq_ok decoded]
    rfl
  · simp only [Except.bind_eq_ok, pure, Except.pure, Except.ok.injEq] at decoded
    obtain ⟨n, read, rfl⟩ := decoded
    obtain ⟨_, found⟩ := exists_of_newtypeContent_eq_ok read
    simp only [wellFormed, Bool.and_eq_true, decide_eq_true_eq]
    exact Decoder.mem_of_intBetween_eq_ok found
  iterate 3
    · simp only [Except.bind_eq_ok, pure, Except.pure, Except.ok.injEq] at decoded
      obtain ⟨_, -, rfl⟩ := decoded
      rfl
  · cases decoded

end Literal

theorem lt_of_decodeSourceRef_eq_ok {doc : Json} {ref : SourceRef}
    (decoded : Expr.decodeSourceRef doc = .ok ref) : ref.id < Nat.pow 2 32 := by
  obtain ⟨members, built⟩ := exists_of_decodeStructure_eq_ok decoded
  simp only [Except.bind_eq_ok, pure, Except.pure, Except.ok.injEq] at built
  obtain ⟨_, -, id, read, _, -, _, -, rfl⟩ := built
  obtain ⟨_, found⟩ := exists_of_need_eq_ok read
  exact Decoder.lt_of_uint32_eq_ok found

theorem Param.wellFormed_of_decodeWith {fuel : Nat} {doc : Json} {p : Param}
    (decoded : Param.decodeWith fuel doc = .ok p) : p.ty.wellFormed = true := by
  obtain ⟨members, built⟩ := exists_of_decodeStructure_eq_ok decoded
  simp only [Except.bind_eq_ok, pure, Except.pure, Except.ok.injEq] at built
  obtain ⟨_, -, _, -, ty, read, rfl⟩ := built
  obtain ⟨_, found⟩ := exists_of_need_eq_ok read
  exact ValueType.wellFormed_of_decodeWith _ found

theorem RecordType.wellFormed_of_decodeWith {fuel : Nat} {doc : Json} {r : RecordType}
    (decoded : RecordType.decodeWith fuel doc = .ok r) : (ValueType.ofRecord r).wellFormed = true := by
  obtain ⟨t, found, built⟩ := Except.bind_eq_ok.mp decoded
  have formed := ValueType.wellFormed_of_decodeWith _ found
  split at built
  · cases built
    exact formed
  · cases built

theorem decodeSourceRef_toJson {ref : SourceRef} (formed : ref.id < Nat.pow 2 32) :
    Expr.decodeSourceRef
        (.obj [("id", .int ref.id), ("name", .str ref.name), ("item_type", .str ref.itemType)]) =
      .ok ref := by
  simp [Expr.decodeSourceRef, Decoder.uint32_int formed]

theorem Param.decodeWith_toJson (p : Param) (fuel : Nat) (formed : p.ty.wellFormed = true)
    (deep : p.ty.toJson.depth < fuel) : Param.decodeWith fuel p.toJson = .ok p := by
  simp [Param.decodeWith, Param.toJson, ValueType.decodeWith_toJson p.ty fuel formed deep, bind,
    Except.bind, pure, Except.pure]

theorem RecordType.decodeWith_toJson (r : RecordType) (fuel : Nat)
    (formed : (ValueType.ofRecord r).wellFormed = true) (deep : r.toJson.depth < fuel) :
    RecordType.decodeWith fuel r.toJson = .ok r := by
  have record : ValueType.decodeWith (fuel + 1) (.obj [("Record", r.toJson)]) = .ok (.ofRecord r) :=
    ValueType.decodeWith_toJson (.ofRecord r) (fuel + 1) formed (by
      show (Json.obj [("Record", r.toJson)]).depth < fuel + 1
      simp only [Json.depth, membersDepth]
      omega)
  simp [RecordType.decodeWith, record, ValueType.ofRecord, pure, Except.pure]

namespace Expr

mutual

/-- Source ids fit 32 bits, integer constants 64 signed bits, indices 64 unsigned bits, every
type is well formed and a tuple construction has an allowed arity. -/
def wellFormed : Expr → Bool
  | .querySource ref => ref.id < Nat.pow 2 32
  | .memberAccess target _ ty => target.wellFormed && ty.wellFormed
  | .new r args => (ValueType.ofRecord r).wellFormed && listWellFormed args
  | .memberInit r ctorArgs bindings =>
    (ValueType.ofRecord r).wellFormed && listWellFormed ctorArgs && bindingsWellFormed bindings
  | .parameter p => p.ty.wellFormed
  | .literal lit => lit.wellFormed
  | .convert operand ty => operand.wellFormed && ty.wellFormed
  | .rowIndex row index => row.wellFormed && index < Nat.pow 2 64
  | .tupleItem tuple index ty => tuple.wellFormed && index < Nat.pow 2 64 && ty.wellFormed
  | .mkTuple ty items => (ValueType.tuple ty).wellFormed && listWellFormed items
  | .groupKey group => group.wellFormed
  | .cast source element => source.wellFormed && element.wellFormed
  | .groupBy source keyParam key valueParam value =>
    source.wellFormed && keyParam.ty.wellFormed && key.wellFormed && valueParam.ty.wellFormed &&
      value.wellFormed
  | .select source p body => source.wellFormed && p.ty.wellFormed && body.wellFormed
  | .toArray source => source.wellFormed
  | .newCollection _ element source => element.wellFormed && source.wellFormed

/-- Every expression of the list is well formed. -/
def listWellFormed : List Expr → Bool
  | [] => true
  | e :: rest => e.wellFormed && listWellFormed rest

/-- Every bound expression is well formed. -/
def bindingsWellFormed : List (String × Expr) → Bool
  | [] => true
  | (_, e) :: rest => e.wellFormed && bindingsWellFormed rest

end

theorem listWellFormed_iff (items : List Expr) :
    listWellFormed items = true ↔ ∀ e ∈ items, e.wellFormed = true := by
  induction items with
  | nil => simp [listWellFormed]
  | cons e rest ih => simp [listWellFormed, ih]

theorem bindingsWellFormed_iff (bindings : List (String × Expr)) :
    bindingsWellFormed bindings = true ↔ ∀ binding ∈ bindings, binding.2.wellFormed = true := by
  induction bindings with
  | nil => simp [bindingsWellFormed]
  | cons binding rest ih =>
    obtain ⟨member, e⟩ := binding
    simp [bindingsWellFormed, ih]

/-! Reading each variant whose content has a reader of its own, for any content. Proofs rewrite
with these instead of unfolding the whole reader, whose match on a concrete content also makes a
proof term the kernel cannot check. -/

theorem decodeWith_querySource (fuel : Nat) (content : Json) :
    decodeWith (fuel + 1) (.obj [("QuerySource", content)]) = querySource <$> decodeSourceRef content :=
  rfl

theorem decodeWith_member (fuel : Nat) (content : Json) :
    decodeWith (fuel + 1) (.obj [("Member", content)]) =
      decodeMemberAccess fuel (decodeWith fuel) content := rfl

theorem decodeWith_new (fuel : Nat) (content : Json) :
    decodeWith (fuel + 1) (.obj [("New", content)]) = decodeNew fuel (decodeWith fuel) content := rfl

theorem decodeWith_memberInit (fuel : Nat) (content : Json) :
    decodeWith (fuel + 1) (.obj [("MemberInit", content)]) =
      decodeMemberInit fuel (decodeWith fuel) content := rfl

theorem decodeWith_parameter (fuel : Nat) (content : Json) :
    decodeWith (fuel + 1) (.obj [("Parameter", content)]) = parameter <$> Param.decodeWith fuel content :=
  rfl

theorem decodeWith_literal (fuel : Nat) (content : Json) :
    decodeWith (fuel + 1) (.obj [("Literal", content)]) = literal <$> Literal.decode content := rfl

theorem decodeWith_tuple (fuel : Nat) (content : Json) :
    decodeWith (fuel + 1) (.obj [("Tuple", content)]) = decodeTuple fuel (decodeWith fuel) content := rfl

theorem decodeWith_groupKey (fuel : Nat) (content : Json) :
    decodeWith (fuel + 1) (.obj [("GroupKey", content)]) = groupKey <$> decodeWith fuel content := rfl

theorem decodeWith_sequence (fuel : Nat) (content : Json) :
    decodeWith (fuel + 1) (.obj [("Sequence", content)]) =
      decodeSequenceOp fuel (decodeWith fuel) content := rfl

theorem decodeLambda_lambdaJson (fuel : Nat) (sub : Decoder Expr) {p : Param} {bodyJson : Json}
    {body : Expr} (formed : p.ty.wellFormed = true) (deep : p.ty.toJson.depth < fuel)
    (read : sub bodyJson = .ok body) : decodeLambda fuel sub (lambdaJson p bodyJson) = .ok (p, body) := by
  simp [decodeLambda, lambdaJson, Param.decodeWith_toJson p fuel formed deep, read]

mutual

theorem decodeWith_toJson : ∀ (e : Expr) (fuel : Nat), e.wellFormed = true →
    e.toJson.depth < fuel → decodeWith fuel e.toJson = .ok e
  | _, 0, _, deep => absurd deep (Nat.not_lt_zero _)
  | .querySource ref, fuel + 1, formed, _ => by
    have bounded : ref.id < Nat.pow 2 32 := of_decide_eq_true formed
    rw [toJson, decodeWith_querySource, decodeSourceRef_toJson bounded]
    rfl
  | .memberAccess target name ty, fuel + 1, formed, deep => by
    simp only [wellFormed, Bool.and_eq_true] at formed
    simp only [toJson, depth_obj_lt, depth_obj_add_lt, List.forall_mem_cons] at deep
    have inner := decodeWith_toJson target fuel formed.1 (by omega)
    have typed := ty.decodeWith_toJson fuel formed.2 (by omega)
    rw [toJson, decodeWith_member]
    simp [decodeMemberAccess, inner, typed]
  | .new r args, fuel + 1, formed, deep => by
    simp only [wellFormed, Bool.and_eq_true] at formed
    simp only [toJson, depth_obj_lt, depth_obj_add_lt, depth_arr, List.forall_mem_cons] at deep
    have typed := RecordType.decodeWith_toJson r fuel formed.1 (by omega)
    have listed := mapM_decodeWith_listJson args fuel formed.2 (by omega)
    rw [toJson, decodeWith_new]
    simp [decodeNew, typed, listed]
  | .memberInit r ctorArgs bindings, fuel + 1, formed, deep => by
    simp only [wellFormed, Bool.and_eq_true] at formed
    simp only [toJson, depth_obj_lt, depth_obj_add_lt, depth_arr, List.forall_mem_cons] at deep
    have typed := RecordType.decodeWith_toJson r fuel formed.1.1 (by omega)
    have listed := mapM_decodeWith_listJson ctorArgs fuel formed.1.2 (by omega)
    have bound := mapM_decodeBinding_bindingsJson bindings fuel formed.2 (by omega)
    rw [toJson, decodeWith_memberInit]
    simp [decodeMemberInit, typed, listed, bound]
  | .parameter p, fuel + 1, formed, deep => by
    simp only [wellFormed] at formed
    simp only [toJson, Param.toJson, depth_obj_lt, depth_obj_add_lt, List.forall_mem_cons] at deep
    have typed := Param.decodeWith_toJson p fuel formed (by omega)
    rw [toJson, decodeWith_parameter, typed]
    rfl
  | .literal lit, fuel + 1, formed, _ => by
    simp only [wellFormed] at formed
    rw [toJson, decodeWith_literal, Literal.decode_toJson formed]
    rfl
  | .convert operand ty, fuel + 1, formed, deep => by
    simp only [wellFormed, Bool.and_eq_true] at formed
    simp only [toJson, depth_obj_lt, depth_obj_add_lt, List.forall_mem_cons] at deep
    have inner := decodeWith_toJson operand fuel formed.1 (by omega)
    have typed := ty.decodeWith_toJson fuel formed.2 (by omega)
    simp [decodeWith, toJson, variantOf, inner, typed]
  | .rowIndex row index, fuel + 1, formed, deep => by
    simp only [wellFormed, Bool.and_eq_true, decide_eq_true_eq] at formed
    simp only [toJson, depth_obj_lt, depth_obj_add_lt, List.forall_mem_cons] at deep
    have inner := decodeWith_toJson row fuel formed.1 (by omega)
    simp [decodeWith, toJson, variantOf, inner, Decoder.index_int formed.2]
  | .tupleItem tuple index ty, fuel + 1, formed, deep => by
    simp only [wellFormed, Bool.and_eq_true, decide_eq_true_eq] at formed
    simp only [toJson, depth_obj_lt, depth_obj_add_lt, List.forall_mem_cons] at deep
    have inner := decodeWith_toJson tuple fuel formed.1.1 (by omega)
    have typed := ty.decodeWith_toJson fuel formed.2 (by omega)
    simp [decodeWith, toJson, variantOf, inner, typed, Decoder.index_int formed.1.2]
  | .mkTuple ty items, fuel + 1, formed, deep => by
    simp only [wellFormed, ValueType.wellFormed, Bool.and_eq_true, decide_eq_true_eq] at formed
    simp only [toJson, depth_obj_lt, depth_obj_add_lt, depth_arr, List.forall_mem_cons] at deep
    have typed : ValueType.decodeTupleItems fuel (.arr (ValueType.itemsJson ty)) = .ok ty :=
      ValueType.decodeTupleItems_eq_ok_iff.mpr
        ⟨ValueType.mapM_decodeWith_itemsJson ty fuel formed.1.2 (by omega), formed.1.1⟩
    have listed := mapM_decodeWith_listJson items fuel formed.2 (by omega)
    rw [toJson, decodeWith_tuple]
    simp [decodeTuple, typed, listed]
  | .groupKey group, fuel + 1, formed, deep => by
    simp only [wellFormed] at formed
    simp only [toJson, depth_obj_lt, List.forall_mem_cons] at deep
    have inner := decodeWith_toJson group fuel formed (by omega)
    rw [toJson, decodeWith_groupKey, inner]
    rfl
  | .cast source element, fuel + 1, formed, deep => by
    simp only [wellFormed, Bool.and_eq_true] at formed
    simp only [toJson, depth_obj_lt, depth_obj_add_lt, List.forall_mem_cons] at deep
    have inner := decodeWith_toJson source fuel formed.1 (by omega)
    have typed := element.decodeWith_toJson fuel formed.2 (by omega)
    rw [toJson, decodeWith_sequence]
    simp [decodeSequenceOp, variantOf, inner, typed]
  | .groupBy source keyParam key valueParam value, fuel + 1, formed, deep => by
    simp only [wellFormed, Bool.and_eq_true] at formed
    simp only [toJson, lambdaJson, Param.toJson, depth_obj_lt, depth_obj_add_lt, List.forall_mem_cons] at deep
    have inner := decodeWith_toJson source fuel formed.1.1.1.1 (by omega)
    have keyed := decodeLambda_lambdaJson fuel (decodeWith fuel) formed.1.1.1.2 (by omega)
      (decodeWith_toJson key fuel formed.1.1.2 (by omega))
    have valued := decodeLambda_lambdaJson fuel (decodeWith fuel) formed.1.2 (by omega)
      (decodeWith_toJson value fuel formed.2 (by omega))
    rw [toJson, decodeWith_sequence]
    simp [decodeSequenceOp, variantOf, inner, keyed, valued]
  | .select source p body, fuel + 1, formed, deep => by
    simp only [wellFormed, Bool.and_eq_true] at formed
    simp only [toJson, lambdaJson, Param.toJson, depth_obj_lt, depth_obj_add_lt, List.forall_mem_cons] at deep
    have inner := decodeWith_toJson source fuel formed.1.1 (by omega)
    have selected := decodeLambda_lambdaJson fuel (decodeWith fuel) formed.1.2 (by omega)
      (decodeWith_toJson body fuel formed.2 (by omega))
    rw [toJson, decodeWith_sequence]
    simp [decodeSequenceOp, variantOf, inner, selected]
  | .toArray source, fuel + 1, formed, deep => by
    simp only [wellFormed] at formed
    simp only [toJson, depth_obj_lt, depth_obj_add_lt, List.forall_mem_cons] at deep
    have inner := decodeWith_toJson source fuel formed (by omega)
    rw [toJson, decodeWith_sequence]
    simp [decodeSequenceOp, variantOf, inner]
  | .newCollection kind element source, fuel + 1, formed, deep => by
    simp only [wellFormed, Bool.and_eq_true] at formed
    simp only [toJson, depth_obj_lt, depth_obj_add_lt, List.forall_mem_cons] at deep
    have typed := element.decodeWith_toJson fuel formed.1 (by omega)
    have inner := decodeWith_toJson source fuel formed.2 (by omega)
    rw [toJson, decodeWith_sequence]
    simp [decodeSequenceOp, variantOf, ValueType.collectionKind_decode_toJson, typed, inner]

theorem mapM_decodeWith_listJson : ∀ (items : List Expr) (fuel : Nat),
    listWellFormed items = true → itemsDepth (listJson items) < fuel →
      (listJson items).mapM (decodeWith fuel) = .ok items
  | [], _, _, _ => rfl
  | e :: rest, fuel, formed, deep => by
    simp only [listWellFormed, Bool.and_eq_true] at formed
    simp only [listJson, itemsDepth] at deep
    have head := decodeWith_toJson e fuel formed.1 (by omega)
    have tail := mapM_decodeWith_listJson rest fuel formed.2 (by omega)
    simp [listJson, head, tail]

theorem mapM_decodeBinding_bindingsJson : ∀ (bindings : List (String × Expr)) (fuel : Nat),
    bindingsWellFormed bindings = true → itemsDepth (bindingsJson bindings) < fuel →
      (bindingsJson bindings).mapM (decodeBinding (decodeWith fuel)) = .ok bindings
  | [], _, _, _ => rfl
  | (member, e) :: rest, fuel, formed, deep => by
    simp only [bindingsWellFormed, Bool.and_eq_true] at formed
    simp only [bindingsJson, itemsDepth, Json.depth, membersDepth] at deep
    have bound := decodeWith_toJson e fuel formed.1 (by omega)
    have head : decodeBinding (decodeWith fuel) (.obj [("member", .str member), ("expr", e.toJson)]) =
        .ok (member, e) := by
      simp [decodeBinding, bound]
    have tail := mapM_decodeBinding_bindingsJson rest fuel formed.2 (by omega)
    simp [bindingsJson, head, tail]

end

/-! ### What decodes is well formed -/

section Decoded

variable {fuel : Nat} {sub : Decoder Expr} {doc : Json}

theorem wellFormed_of_decodeLambda {p : Param} {body : Expr}
    (yields : ∀ {doc e}, sub doc = .ok e → e.wellFormed = true)
    (decoded : decodeLambda fuel sub doc = .ok (p, body)) :
    p.ty.wellFormed = true ∧ body.wellFormed = true := by
  obtain ⟨members, built⟩ := exists_of_decodeStructure_eq_ok decoded
  simp only [Except.bind_eq_ok, pure, Except.pure, Except.ok.injEq, Prod.mk.injEq] at built
  obtain ⟨_, -, _, paramRead, _, bodyRead, rfl, rfl⟩ := built
  obtain ⟨_, paramFound⟩ := exists_of_need_eq_ok paramRead
  obtain ⟨_, bodyFound⟩ := exists_of_need_eq_ok bodyRead
  exact ⟨Param.wellFormed_of_decodeWith paramFound, yields bodyFound⟩

theorem wellFormed_of_decodeBinding {binding : String × Expr}
    (yields : ∀ {doc e}, sub doc = .ok e → e.wellFormed = true)
    (decoded : decodeBinding sub doc = .ok binding) : binding.2.wellFormed = true := by
  obtain ⟨fields, built⟩ := exists_of_decodeStructure_eq_ok decoded
  simp only [Except.bind_eq_ok, pure, Except.pure, Except.ok.injEq] at built
  obtain ⟨_, -, _, -, _, read, rfl⟩ := built
  obtain ⟨_, found⟩ := exists_of_need_eq_ok read
  exact yields found

theorem listWellFormed_of_list {items : List Expr}
    (yields : ∀ {doc e}, sub doc = .ok e → e.wellFormed = true)
    (decoded : Decoder.list sub doc = .ok items) : listWellFormed items = true := by
  rw [listWellFormed_iff]
  intro e mem
  obtain ⟨_, found⟩ := ValueType.exists_of_list_eq_ok decoded e mem
  exact yields found

theorem bindingsWellFormed_of_list {bindings : List (String × Expr)}
    (yields : ∀ {doc e}, sub doc = .ok e → e.wellFormed = true)
    (decoded : Decoder.list (decodeBinding sub) doc = .ok bindings) :
    bindingsWellFormed bindings = true := by
  rw [bindingsWellFormed_iff]
  intro binding mem
  obtain ⟨_, found⟩ := ValueType.exists_of_list_eq_ok decoded binding mem
  exact wellFormed_of_decodeBinding yields found

theorem wellFormed_of_decodeMemberAccess {e : Expr}
    (yields : ∀ {doc e}, sub doc = .ok e → e.wellFormed = true)
    (decoded : decodeMemberAccess fuel sub doc = .ok e) : e.wellFormed = true := by
  obtain ⟨members, built⟩ := exists_of_decodeStructure_eq_ok decoded
  simp only [Except.bind_eq_ok, pure, Except.pure, Except.ok.injEq] at built
  obtain ⟨_, -, _, targetRead, _, -, _, tyRead, rfl⟩ := built
  obtain ⟨_, targetFound⟩ := exists_of_need_eq_ok targetRead
  obtain ⟨_, tyFound⟩ := exists_of_need_eq_ok tyRead
  simp [wellFormed, yields targetFound, ValueType.wellFormed_of_decodeWith _ tyFound]

theorem wellFormed_of_decodeNew {e : Expr} (yields : ∀ {doc e}, sub doc = .ok e → e.wellFormed = true)
    (decoded : decodeNew fuel sub doc = .ok e) : e.wellFormed = true := by
  obtain ⟨members, built⟩ := exists_of_decodeStructure_eq_ok decoded
  simp only [Except.bind_eq_ok, pure, Except.pure, Except.ok.injEq] at built
  obtain ⟨_, -, _, tyRead, _, argsRead, rfl⟩ := built
  obtain ⟨_, tyFound⟩ := exists_of_need_eq_ok tyRead
  obtain ⟨_, argsFound⟩ := exists_of_need_eq_ok argsRead
  simp [wellFormed, RecordType.wellFormed_of_decodeWith tyFound, listWellFormed_of_list yields argsFound]

theorem wellFormed_of_decodeMemberInit {e : Expr}
    (yields : ∀ {doc e}, sub doc = .ok e → e.wellFormed = true)
    (decoded : decodeMemberInit fuel sub doc = .ok e) : e.wellFormed = true := by
  obtain ⟨members, built⟩ := exists_of_decodeStructure_eq_ok decoded
  simp only [Except.bind_eq_ok, pure, Except.pure, Except.ok.injEq] at built
  obtain ⟨_, -, _, tyRead, _, argsRead, _, bindingsRead, rfl⟩ := built
  obtain ⟨_, tyFound⟩ := exists_of_need_eq_ok tyRead
  obtain ⟨_, argsFound⟩ := exists_of_need_eq_ok argsRead
  obtain ⟨_, bindingsFound⟩ := exists_of_need_eq_ok bindingsRead
  simp [wellFormed, RecordType.wellFormed_of_decodeWith tyFound, listWellFormed_of_list yields argsFound,
    bindingsWellFormed_of_list yields bindingsFound]

theorem wellFormed_of_decodeTuple {e : Expr} (yields : ∀ {doc e}, sub doc = .ok e → e.wellFormed = true)
    (decoded : decodeTuple fuel sub doc = .ok e) : e.wellFormed = true := by
  obtain ⟨members, built⟩ := exists_of_decodeStructure_eq_ok decoded
  simp only [Except.bind_eq_ok, pure, Except.pure, Except.ok.injEq] at built
  obtain ⟨_, -, tys, tyRead, _, itemsRead, rfl⟩ := built
  obtain ⟨_, tyFound⟩ := exists_of_need_eq_ok tyRead
  obtain ⟨listed, low, high⟩ := ValueType.decodeTupleItems_eq_ok_iff.mp tyFound
  obtain ⟨_, itemsFound⟩ := exists_of_need_eq_ok itemsRead
  have typed : ValueType.itemsWellFormed tys = true := by
    rw [ValueType.itemsWellFormed_iff]
    intro t mem
    obtain ⟨_, found⟩ := ValueType.exists_of_list_eq_ok listed t mem
    exact ValueType.wellFormed_of_decodeWith _ found
  simp [wellFormed, ValueType.wellFormed, low, high, typed, listWellFormed_of_list yields itemsFound]

theorem wellFormed_of_decodeSequenceOp {e : Expr}
    (yields : ∀ {doc e}, sub doc = .ok e → e.wellFormed = true)
    (decoded : decodeSequenceOp fuel sub doc = .ok e) : e.wellFormed = true := by
  simp only [decodeSequenceOp] at decoded
  obtain ⟨⟨tag, content⟩, -, decoded⟩ := Except.bind_eq_ok.mp decoded
  split at decoded
  · obtain ⟨members, built⟩ := exists_of_structContent_eq_ok decoded
    simp only [Except.bind_eq_ok, pure, Except.pure, Except.ok.injEq] at built
    obtain ⟨_, -, _, sourceRead, _, elementRead, rfl⟩ := built
    obtain ⟨_, sourceFound⟩ := exists_of_need_eq_ok sourceRead
    obtain ⟨_, elementFound⟩ := exists_of_need_eq_ok elementRead
    simp [wellFormed, yields sourceFound, ValueType.wellFormed_of_decodeWith _ elementFound]
  · obtain ⟨members, built⟩ := exists_of_structContent_eq_ok decoded
    simp only [Except.bind_eq_ok, pure, Except.pure, Except.ok.injEq] at built
    obtain ⟨_, -, _, sourceRead, ⟨keyParam, key⟩, keyRead, ⟨valueParam, value⟩, valueRead, rfl⟩ := built
    obtain ⟨_, sourceFound⟩ := exists_of_need_eq_ok sourceRead
    obtain ⟨_, keyFound⟩ := exists_of_need_eq_ok keyRead
    obtain ⟨_, valueFound⟩ := exists_of_need_eq_ok valueRead
    have keyed := wellFormed_of_decodeLambda yields keyFound
    have valued := wellFormed_of_decodeLambda yields valueFound
    simp [wellFormed, yields sourceFound, keyed.1, keyed.2, valued.1, valued.2]
  · obtain ⟨members, built⟩ := exists_of_structContent_eq_ok decoded
    simp only [Except.bind_eq_ok, pure, Except.pure, Except.ok.injEq] at built
    obtain ⟨_, -, _, sourceRead, ⟨p, body⟩, selectorRead, rfl⟩ := built
    obtain ⟨_, sourceFound⟩ := exists_of_need_eq_ok sourceRead
    obtain ⟨_, selectorFound⟩ := exists_of_need_eq_ok selectorRead
    have selected := wellFormed_of_decodeLambda yields selectorFound
    simp [wellFormed, yields sourceFound, selected.1, selected.2]
  · obtain ⟨members, built⟩ := exists_of_structContent_eq_ok decoded
    simp only [Except.bind_eq_ok, pure, Except.pure, Except.ok.injEq] at built
    obtain ⟨_, -, _, sourceRead, rfl⟩ := built
    obtain ⟨_, sourceFound⟩ := exists_of_need_eq_ok sourceRead
    simp [wellFormed, yields sourceFound]
  · obtain ⟨members, built⟩ := exists_of_structContent_eq_ok decoded
    simp only [Except.bind_eq_ok, pure, Except.pure, Except.ok.injEq] at built
    obtain ⟨_, -, _, -, _, elementRead, _, sourceRead, rfl⟩ := built
    obtain ⟨_, elementFound⟩ := exists_of_need_eq_ok elementRead
    obtain ⟨_, sourceFound⟩ := exists_of_need_eq_ok sourceRead
    simp [wellFormed, yields sourceFound, ValueType.wellFormed_of_decodeWith _ elementFound]
  · cases decoded

end Decoded

theorem wellFormed_of_decodeWith : ∀ (fuel : Nat) {doc : Json} {e : Expr},
    decodeWith fuel doc = .ok e → e.wellFormed = true
  | 0, _, _, decoded => by cases decoded
  | fuel + 1, doc, e, decoded => by
    have sub : ∀ {doc e}, decodeWith fuel doc = .ok e → e.wellFormed = true :=
      wellFormed_of_decodeWith fuel
    simp only [decodeWith] at decoded
    obtain ⟨⟨tag, content⟩, -, decoded⟩ := Except.bind_eq_ok.mp decoded
    split at decoded
    · simp only [Except.bind_eq_ok, pure, Except.pure, Except.ok.injEq] at decoded
      obtain ⟨ref, read, rfl⟩ := decoded
      obtain ⟨_, found⟩ := exists_of_newtypeContent_eq_ok read
      simpa [wellFormed] using lt_of_decodeSourceRef_eq_ok found
    · obtain ⟨_, found⟩ := exists_of_newtypeContent_eq_ok decoded
      exact wellFormed_of_decodeMemberAccess sub found
    · obtain ⟨_, found⟩ := exists_of_newtypeContent_eq_ok decoded
      exact wellFormed_of_decodeNew sub found
    · obtain ⟨_, found⟩ := exists_of_newtypeContent_eq_ok decoded
      exact wellFormed_of_decodeMemberInit sub found
    · simp only [Except.bind_eq_ok, pure, Except.pure, Except.ok.injEq] at decoded
      obtain ⟨p, read, rfl⟩ := decoded
      obtain ⟨_, found⟩ := exists_of_newtypeContent_eq_ok read
      exact Param.wellFormed_of_decodeWith found
    · simp only [Except.bind_eq_ok, pure, Except.pure, Except.ok.injEq] at decoded
      obtain ⟨lit, read, rfl⟩ := decoded
      obtain ⟨_, found⟩ := exists_of_newtypeContent_eq_ok read
      exact Literal.wellFormed_of_decode found
    · obtain ⟨members, built⟩ := exists_of_structContent_eq_ok decoded
      simp only [Except.bind_eq_ok, pure, Except.pure, Except.ok.injEq] at built
      obtain ⟨_, -, _, operandRead, _, tyRead, rfl⟩ := built
      obtain ⟨_, operandFound⟩ := exists_of_need_eq_ok operandRead
      obtain ⟨_, tyFound⟩ := exists_of_need_eq_ok tyRead
      simp [wellFormed, sub operandFound, ValueType.wellFormed_of_decodeWith _ tyFound]
    · obtain ⟨members, built⟩ := exists_of_structContent_eq_ok decoded
      simp only [Except.bind_eq_ok, pure, Except.pure, Except.ok.injEq] at built
      obtain ⟨_, -, _, rowRead, _, indexRead, rfl⟩ := built
      obtain ⟨_, rowFound⟩ := exists_of_need_eq_ok rowRead
      obtain ⟨_, indexFound⟩ := exists_of_need_eq_ok indexRead
      simp [wellFormed, sub rowFound, Decoder.lt_of_index_eq_ok indexFound]
    · obtain ⟨members, built⟩ := exists_of_structContent_eq_ok decoded
      simp only [Except.bind_eq_ok, pure, Except.pure, Except.ok.injEq] at built
      obtain ⟨_, -, _, tupleRead, _, indexRead, _, tyRead, rfl⟩ := built
      obtain ⟨_, tupleFound⟩ := exists_of_need_eq_ok tupleRead
      obtain ⟨_, indexFound⟩ := exists_of_need_eq_ok indexRead
      obtain ⟨_, tyFound⟩ := exists_of_need_eq_ok tyRead
      simp [wellFormed, sub tupleFound, Decoder.lt_of_index_eq_ok indexFound,
        ValueType.wellFormed_of_decodeWith _ tyFound]
    · obtain ⟨_, found⟩ := exists_of_newtypeContent_eq_ok decoded
      exact wellFormed_of_decodeTuple sub found
    · simp only [Except.bind_eq_ok, pure, Except.pure, Except.ok.injEq] at decoded
      obtain ⟨group, read, rfl⟩ := decoded
      obtain ⟨_, found⟩ := exists_of_newtypeContent_eq_ok read
      simpa [wellFormed] using sub found
    · obtain ⟨_, found⟩ := exists_of_newtypeContent_eq_ok decoded
      exact wellFormed_of_decodeSequenceOp sub found
    · cases decoded

theorem wellFormed_of_decode {doc : Json} {e : Expr} (decoded : decode doc = .ok e) :
    e.wellFormed = true :=
  wellFormed_of_decodeWith _ decoded

end Expr

/-! ### Transforms and plans -/

theorem Expr.decode_toJson {e : Expr} (formed : e.wellFormed = true) : Expr.decode e.toJson = .ok e :=
  Expr.decodeWith_toJson e _ formed (Nat.lt_succ_self _)

namespace Flatten

/-- The rows parameter has a well-formed type and the body is well formed. -/
def Transform.wellFormed (t : Transform) : Bool := t.rows.ty.wellFormed && t.body.wellFormed

/-- The expression is well formed, and so is the transform if there is one. -/
def FlatPlan.wellFormed (plan : FlatPlan) : Bool :=
  plan.expression.wellFormed && plan.transform.all Transform.wellFormed

theorem Transform.decode_toJson {t : Transform} (formed : t.wellFormed = true) :
    Transform.decode t.toJson = .ok t := by
  simp only [Transform.wellFormed, Bool.and_eq_true] at formed
  have deep : t.rows.ty.toJson.depth < t.toJson.depth + 1 := by
    simp only [Transform.toJson, Param.toJson, Json.depth, membersDepth]
    omega
  have rows := Param.decodeWith_toJson t.rows _ formed.1 deep
  unfold Transform.decode
  simp only [Transform.toJson] at rows ⊢
  simp [rows, Expr.decode_toJson formed.2]

theorem FlatPlan.decode_toJson {plan : FlatPlan} (formed : plan.wellFormed = true) :
    FlatPlan.decode plan.toJson = .ok plan := by
  obtain ⟨expression, transform⟩ := plan
  simp only [FlatPlan.wellFormed, Bool.and_eq_true] at formed
  cases transform with
  | none => simp [FlatPlan.decode, FlatPlan.toJson, Expr.decode_toJson formed.1]
  | some t =>
    have decoded := Transform.decode_toJson (by simpa using formed.2)
    simp [FlatPlan.decode, FlatPlan.toJson, Expr.decode_toJson formed.1, Transform.toJson] at decoded ⊢
    simp [decoded, Except.map]

theorem Transform.wellFormed_of_decode {doc : Json} {t : Transform} (decoded : Transform.decode doc = .ok t) :
    t.wellFormed = true := by
  obtain ⟨members, built⟩ := exists_of_decodeStructure_eq_ok decoded
  simp only [Except.bind_eq_ok, pure, Except.pure, Except.ok.injEq] at built
  obtain ⟨_, -, _, rowsRead, _, bodyRead, rfl⟩ := built
  obtain ⟨_, rowsFound⟩ := exists_of_need_eq_ok rowsRead
  obtain ⟨_, bodyFound⟩ := exists_of_need_eq_ok bodyRead
  simp [Transform.wellFormed, Param.wellFormed_of_decodeWith rowsFound, Expr.wellFormed_of_decode bodyFound]

theorem FlatPlan.wellFormed_of_decode {doc : Json} {plan : FlatPlan}
    (decoded : FlatPlan.decode doc = .ok plan) : plan.wellFormed = true := by
  obtain ⟨members, built⟩ := exists_of_decodeStructure_eq_ok decoded
  simp only [Except.bind_eq_ok, pure, Except.pure, Except.ok.injEq] at built
  obtain ⟨_, -, _, expressionRead, transform, transformRead, rfl⟩ := built
  obtain ⟨_, expressionFound⟩ := exists_of_need_eq_ok expressionRead
  have transformed : transform.all Transform.wellFormed = true := by
    cases transform with
    | none => rfl
    | some t =>
      cases found : members.find? (·.1 == "transform") with
      | none => simp [readField, found, FieldRead.orNone] at transformRead
      | some member =>
        simp only [readField, found, Option.map_some, FieldRead.orNone] at transformRead
        simpa using Transform.wellFormed_of_decode (Decoder.exists_of_option_eq_ok_some transformRead)
  simp [FlatPlan.wellFormed, Expr.wellFormed_of_decode expressionFound, transformed]

/-- The JSON form of plans round-trips, whatever decodes is well formed, and a tuple type of
another arity fails with the arity error. -/
theorem plan_json_round_trip :
    (∀ e : Expr, e.wellFormed = true → Expr.decode e.toJson = .ok e) ∧
    (∀ t : Transform, t.wellFormed = true → Transform.decode t.toJson = .ok t) ∧
    (∀ plan : FlatPlan, plan.wellFormed = true → FlatPlan.decode plan.toJson = .ok plan) ∧
    (∀ doc e, Expr.decode doc = .ok e → e.wellFormed = true) ∧
    (∀ doc t, Transform.decode doc = .ok t → t.wellFormed = true) ∧
    (∀ doc plan, FlatPlan.decode doc = .ok plan → plan.wellFormed = true) ∧
    (∀ doc t, ValueType.decode doc = .ok t → t.wellFormed = true) ∧
    ∀ docs : List Json, (∀ doc ∈ docs, ∃ t, ValueType.decode doc = .ok t) →
      ¬ (2 ≤ docs.length ∧ docs.length ≤ 6) →
      ValueType.decode (.obj [("Tuple", .arr docs)]) =
          .error (.message (ArityError.message ⟨docs.length, 2, 6⟩)) ∧
        ∀ fuel, (Json.arr docs).depth < fuel → ValueType.decodeTupleItems fuel (.arr docs) =
          .error (.message (ArityError.message ⟨docs.length, 2, 6⟩)) :=
  ⟨fun _ formed => Expr.decode_toJson formed,
    fun _ formed => Transform.decode_toJson formed,
    fun _ formed => FlatPlan.decode_toJson formed,
    fun _ _ decoded => Expr.wellFormed_of_decode decoded,
    fun _ _ decoded => Transform.wellFormed_of_decode decoded,
    fun _ _ decoded => FlatPlan.wellFormed_of_decode decoded,
    fun _ _ decoded => ValueType.wellFormed_of_decode decoded,
    fun _ items arity => ⟨ValueType.decode_tuple_eq_error items arity,
      fun _ deep => ValueType.decodeTupleItems_eq_error deep items arity⟩⟩

/-- A pair of constants round-trips, and a tuple type of one item is refused with the message
the format gives. -/
theorem plan_json_round_trip_pair :
    Expr.decode (Expr.mkTuple [.int, .text] [.literal (.int 1), .literal (.text "a")]).toJson =
        .ok (Expr.mkTuple [.int, .text] [.literal (.int 1), .literal (.text "a")]) ∧
      ValueType.decode (.obj [("Tuple", .arr [.str "Int"])]) =
        .error (.message "Unsupported arity 1: supported arities are 2 through 6") := by
  refine ⟨plan_json_round_trip.1 _ (by decide), ?_⟩
  have refused := (plan_json_round_trip.2.2.2.2.2.2.2 [.str "Int"]
    (fun doc mem => ⟨.int, by simp only [List.mem_singleton] at mem; subst mem; rfl⟩) (by decide)).1
  rw [refused]
  rfl

end Flatten

end FlatProjection
