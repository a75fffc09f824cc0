import FlatProjection.Json.Decode
import FlatProjection.Proofs.Traversal
/-
How the decoders of structures and variants read a document.
-/

namespace FlatProjection

namespace Json

variable {α : Type}

/-! ### Depth -/

theorem depth_le_membersDepth {members : List (String × Json)} {key : String} {doc : Json}
    (mem : (key, doc) ∈ members) : doc.depth ≤ membersDepth members := by
  induction members with
  | nil => cases mem
  | cons member rest ih =>
    obtain ⟨k, v⟩ := member
    simp only [membersDepth]
    rcases List.mem_cons.mp mem with same | later
    · cases same
      omega
    · have := ih later
      omega

theorem depth_le_itemsDepth {items : List Json} {doc : Json} (mem : doc ∈ items) :
    doc.depth ≤ itemsDepth items := by
  induction items with
  | nil => cases mem
  | cons item rest ih =>
    simp only [itemsDepth]
    rcases List.mem_cons.mp mem with same | later
    · subst same
      omega
    · have := ih later
      omega

theorem membersDepth_lt_iff {members : List (String × Json)} {n : Nat} (positive : 0 < n) :
    membersDepth members < n ↔ ∀ member ∈ members, member.2.depth < n := by
  induction members with
  | nil => simpa [membersDepth] using positive
  | cons member rest ih =>
    obtain ⟨key, doc⟩ := member
    rw [membersDepth, Nat.max_lt, ih, List.forall_mem_cons]

/-- An object sits `k` levels above a bound when each member's value sits one more level above
it. -/
theorem depth_obj_add_lt {members : List (String × Json)} {k n : Nat} :
    (Json.obj members).depth + k < n ↔ k + 1 < n ∧ ∀ member ∈ members, member.2.depth + (k + 1) < n := by
  simp only [depth]
  by_cases room : k + 1 < n
  · have inside := @membersDepth_lt_iff members (n - (k + 1)) (by omega)
    constructor
    · intro below
      refine ⟨room, fun member mem => ?_⟩
      have := inside.mp (by omega) member mem
      omega
    · rintro ⟨-, each⟩
      have := inside.mpr fun member mem => by have := each member mem; omega
      omega
  · constructor
    · intro below
      omega
    · rintro ⟨far, -⟩
      omega

theorem depth_obj_lt {members : List (String × Json)} {n : Nat} :
    (Json.obj members).depth < n ↔ 1 < n ∧ ∀ member ∈ members, member.2.depth + 1 < n := by
  simpa using @depth_obj_add_lt members 0 n

@[simp] theorem depth_arr (items : List Json) : (Json.arr items).depth = itemsDepth items + 1 := rfl

/-- Pairing names with the items of an array goes no deeper than the items. -/
theorem membersDepth_zip_le (fields : List String) (items : List Json) :
    membersDepth (fields.zip items) ≤ itemsDepth items := by
  induction items generalizing fields with
  | nil => simp [membersDepth]
  | cons item rest ih =>
    cases fields with
    | nil => simp [membersDepth]
    | cons field others =>
      have := ih others
      simp only [List.zip_cons_cons, membersDepth, itemsDepth]
      omega

/-! ### Reading documents that decode -/

@[simp] theorem readField_nil (key : String) (decoder : Decoder α) :
    readField [] key decoder = none := rfl

@[simp] theorem readField_cons (k key : String) (doc : Json) (rest : List (String × Json))
    (decoder : Decoder α) :
    readField ((k, doc) :: rest) key decoder =
      if k = key then some (decoder doc) else readField rest key decoder := by
  by_cases same : k = key <;> simp [readField, same]

@[simp] theorem FieldRead.failure?_ok (v : α) : FieldRead.failure? (some (.ok v)) = none := rfl

@[simp] theorem FieldRead.need_ok (key : String) (v : α) :
    FieldRead.need key (some (.ok v)) = .ok v := rfl

@[simp] theorem FieldRead.orNone_ok (v : Option α) :
    FieldRead.orNone (some (.ok v)) = .ok v := rfl

/-- With no failed member, the check for the first failure passes. -/
@[simp] theorem firstFailure_eq_ok {members : List (String × Json)}
    {failures : List (String × Option DecodeError)} (unfailed : ∀ failure ∈ failures, failure.2 = none) :
    firstFailure members failures = .ok () := by
  have nothing : members.findSome? (fun member => (failures.find? (·.1 == member.1)).bind (·.2)) =
      none := by
    rw [List.findSome?_eq_none_iff]
    intro member _
    cases found : failures.find? (·.1 == member.1) with
    | none => rfl
    | some failure => simpa using unfailed failure (List.mem_of_find?_eq_some found)
  simp [firstFailure, nothing]

@[simp] theorem decodeStructure_obj (typeName : String) (fields : List String)
    (build : List (String × Json) → Except DecodeError α) (members : List (String × Json)) :
    decodeStructure typeName fields build (.obj members) = build members := rfl

@[simp] theorem structContent_obj (build : List (String × Json) → Except DecodeError α)
    (members : List (String × Json)) : structContent build (some (.obj members)) = build members :=
  rfl

@[simp] theorem newtypeContent_some (decoder : Decoder α) (doc : Json) :
    newtypeContent decoder (some doc) = decoder doc := rfl

namespace Decoder

@[simp] theorem string_str (s : String) : string (.str s) = .ok s := rfl

@[simp] theorem bool_bool (b : Bool) : bool (.bool b) = .ok b := rfl

@[simp] theorem float_float (x : Number.Binary64) : float (.float x) = .ok x := rfl

@[simp] theorem list_arr (item : Decoder α) (items : List Json) :
    list item (.arr items) = items.mapM item := rfl

@[simp] theorem option_null (inner : Decoder α) : option inner .null = .ok none := rfl

@[simp] theorem option_str (inner : Decoder α) (s : String) :
    option inner (.str s) = (inner (.str s)).map some := rfl

@[simp] theorem option_obj (inner : Decoder α) (members : List (String × Json)) :
    option inner (.obj members) = (inner (.obj members)).map some := rfl

/-- What an optional decoder reads, other than `null`, its inner decoder read. -/
theorem exists_of_option_eq_ok_some {inner : Decoder α} {doc : Json} {v : α}
    (read : option inner doc = .ok (some v)) : inner doc = .ok v := by
  cases doc with
  | null => cases read
  | bool _ | int _ | float _ | str _ | arr _ | obj _ =>
    obtain ⟨w, found, same⟩ := Except.map_eq_ok.mp read
    cases same
    exact found

theorem intBetween_int (name : String) {lo hi n : Int} (low : lo ≤ n) (high : n < hi) :
    intBetween name lo hi (.int n) = .ok n := by
  simp [intBetween, low, high]

theorem int64_int {n : Int} (low : -(Nat.pow 2 63 : Int) ≤ n) (high : n < Nat.pow 2 63) :
    int64 (.int n) = .ok n :=
  intBetween_int "i64" low high

theorem uint32_int {n : Nat} (high : n < Nat.pow 2 32) : uint32 (.int n) = .ok n := by
  unfold uint32
  rw [intBetween_int "u32" (Int.natCast_nonneg n) (Int.ofNat_lt.mpr high)]
  rfl

theorem index_int {n : Nat} (high : n < Nat.pow 2 64) : index (.int n) = .ok n := by
  unfold index
  rw [intBetween_int "usize" (Int.natCast_nonneg n) (Int.ofNat_lt.mpr high)]
  rfl

/-- An integer read in `[lo, hi)` lies there. -/
theorem mem_of_intBetween_eq_ok {name : String} {lo hi n : Int} {doc : Json}
    (read : intBetween name lo hi doc = .ok n) : lo ≤ n ∧ n < hi := by
  cases doc with
  | int m =>
    simp only [intBetween] at read
    split at read
    · rename_i inside
      cases read
      simpa using inside
    · cases read
  | null | bool _ | float _ | str _ | arr _ | obj _ => cases read

theorem lt_of_uint32_eq_ok {doc : Json} {n : Nat} (read : uint32 doc = .ok n) : n < Nat.pow 2 32 := by
  obtain ⟨m, inside, rfl⟩ := Except.map_eq_ok.mp read
  have := mem_of_intBetween_eq_ok inside
  omega

theorem lt_of_index_eq_ok {doc : Json} {n : Nat} (read : index doc = .ok n) : n < Nat.pow 2 64 := by
  obtain ⟨m, inside, rfl⟩ := Except.map_eq_ok.mp read
  have := mem_of_intBetween_eq_ok inside
  omega

end Decoder

/-! ### Where decoded values come from -/

/-- A required member that decodes was decoded from some document. -/
theorem exists_of_need_eq_ok {members : List (String × Json)} {key : String} {decoder : Decoder α}
    {v : α} (read : (readField members key decoder).need key = .ok v) : ∃ doc, decoder doc = .ok v := by
  cases found : members.find? (·.1 == key) with
  | none => simp [readField, found, FieldRead.need] at read
  | some member => exact ⟨member.2, by simpa [readField, found, FieldRead.need] using read⟩

/-- A structure that decodes was built from the members of an object or the fields of an
array. -/
theorem exists_of_decodeStructure_eq_ok {typeName : String} {fields : List String}
    {build : List (String × Json) → Except DecodeError α} {doc : Json} {v : α}
    (decoded : decodeStructure typeName fields build doc = .ok v) :
    ∃ members, build members = .ok v := by
  cases doc with
  | obj members => exact ⟨members, decoded⟩
  | arr items =>
    refine ⟨fields.zip items, ?_⟩
    simp only [decodeStructure] at decoded
    split at decoded
    · cases decoded
    · split at decoded
      · cases decoded
      · split at decoded
        · cases decoded
        · exact decoded
  | null | bool _ | int _ | float _ | str _ => cases decoded

theorem exists_of_structContent_eq_ok {build : List (String × Json) → Except DecodeError α}
    {content : Option Json} {v : α} (decoded : structContent build content = .ok v) :
    ∃ members, build members = .ok v := by
  match content, decoded with
  | some (.obj members), decoded => exact ⟨members, decoded⟩

theorem exists_of_newtypeContent_eq_ok {decoder : Decoder α} {content : Option Json} {v : α}
    (decoded : newtypeContent decoder content = .ok v) : ∃ doc, decoder doc = .ok v := by
  match content, decoded with
  | some doc, decoded => exact ⟨doc, decoded⟩

/-! ### Decoders that agree below a depth -/

/-- Two decoders that give the same answer on every document shallower than `bound`. -/
def AgreeBelow (bound : Nat) (d d' : Decoder α) : Prop :=
  ∀ doc : Json, doc.depth < bound → d doc = d' doc

theorem AgreeBelow.mono {bound lower : Nat} {d d' : Decoder α} (agree : AgreeBelow bound d d')
    (le : lower ≤ bound) : AgreeBelow lower d d' :=
  fun doc shallow => agree doc (by omega)

theorem mapM_congr {items : List Json} {d d' : Decoder α} (same : ∀ doc ∈ items, d doc = d' doc) :
    items.mapM d = items.mapM d' := by
  induction items with
  | nil => rfl
  | cons doc rest ih =>
    simp only [List.mapM_cons, same doc List.mem_cons_self,
      ih fun other mem => same other (List.mem_cons_of_mem _ mem)]

/-- Reading a member of an object looks only at the member's value. -/
theorem readField_congr {bound : Nat} {d d' : Decoder α} (agree : AgreeBelow bound d d')
    {members : List (String × Json)} (shallow : (Json.obj members).depth ≤ bound) (key : String) :
    readField members key d = readField members key d' := by
  cases found : members.find? (·.1 == key) with
  | none => simp [readField, found]
  | some member =>
    have below : member.2.depth < bound := by
      have := depth_le_membersDepth (List.mem_of_find?_eq_some found)
      simp only [depth] at shallow
      omega
    simp [readField, found, agree _ below]

theorem AgreeBelow.list {bound : Nat} {d d' : Decoder α} (agree : AgreeBelow bound d d') :
    AgreeBelow (bound + 1) (Decoder.list d) (Decoder.list d') := by
  intro doc shallow
  cases doc with
  | arr items =>
    simp only [depth] at shallow
    exact mapM_congr fun item mem => agree item (by have := depth_le_itemsDepth mem; omega)
  | null | bool _ | int _ | float _ | str _ | obj _ => rfl

theorem AgreeBelow.decodeStructure {bound : Nat} {typeName : String} {fields : List String}
    {build build' : List (String × Json) → Except DecodeError α}
    (agree : ∀ members, (Json.obj members).depth < bound → build members = build' members) :
    AgreeBelow bound (decodeStructure typeName fields build) (decodeStructure typeName fields build') := by
  intro doc shallow
  cases doc with
  | obj members => exact agree members shallow
  | arr items =>
    have zipped := agree (fields.zip items) (by
      have := membersDepth_zip_le fields items
      simp only [depth] at shallow ⊢
      omega)
    simp only [Json.decodeStructure, zipped]
  | null | bool _ | int _ | float _ | str _ => rfl

theorem structContent_congr {bound : Nat} {build build' : List (String × Json) → Except DecodeError α}
    (agree : ∀ members, (Json.obj members).depth < bound → build members = build' members)
    {content : Json} (shallow : content.depth < bound) :
    structContent build (some content) = structContent build' (some content) := by
  cases content with
  | obj members => exact agree members shallow
  | null | bool _ | int _ | float _ | str _ | arr _ => rfl

end Json

end FlatProjection
