import FlatProjection.Flatten.Shape
import Mathlib.Data.List.Basic
/-
A projection's fields, and the collection scan along a field's spine.
-/

namespace FlatProjection

namespace Expr

/-- The nodes a walk down member targets and conversion operands visits, from the expression
itself to the first node that is neither. -/
def spine : Expr → List Expr
  | e@(.memberAccess target _ _) => e :: target.spine
  | e@(.convert operand _) => e :: operand.spine
  | e => [e]

@[simp] theorem spine_memberAccess (target : Expr) (name : String) (ty : ValueType) :
    (Expr.memberAccess target name ty).spine = .memberAccess target name ty :: target.spine := rfl

@[simp] theorem spine_convert (operand : Expr) (ty : ValueType) :
    (Expr.convert operand ty).spine = .convert operand ty :: operand.spine := rfl

@[simp] theorem spine_querySource (source : SourceRef) : (Expr.querySource source).spine = [.querySource source] :=
  rfl

/-- The top node forms of a projection: a member access, a record built from arguments, or a
record with constructor arguments and member bindings. -/
inductive IsProjection : Expr → Prop
  | memberAccess (target : Expr) (name : String) (ty : ValueType) : IsProjection (.memberAccess target name ty)
  | new (ty : RecordType) (args : List Expr) : IsProjection (.new ty args)
  | memberInit (ty : RecordType) (ctorArgs : List Expr) (bindings : List (String × Expr)) :
      IsProjection (.memberInit ty ctorArgs bindings)

end Expr

namespace Flatten

namespace Shape

/-- Whether a number of fields fits a shape kind: a member access has one field, and a member
initialisation its constructor arguments and one field per bound member. -/
def Fits : ShapeKind → Nat → Prop
  | .member, count => count = 1
  | .new _, _ => True
  | .memberInit _ ctorLength members, count => count = ctorLength + members.length

@[simp] theorem rebuild_eq_error {shape : Shape} {fields : List Expr} (counted : fields.length ≠ shape.arity) :
    shape.rebuild fields = .error (.invalidShape s!"{shape.arity} projection fields" s!"{fields.length} fields") := by
  have differs : (fields.length != shape.arity) = true := bne_iff_ne.mpr counted
  simp [rebuild, differs]

theorem rebuild_new {shape : Shape} {fields : List Expr} (counted : fields.length = shape.arity) {ty : RecordType}
    (kinded : shape.kind = .new ty) : shape.rebuild fields = .ok (.new ty fields) := by
  simp [rebuild, counted, kinded]

theorem rebuild_memberInit {shape : Shape} {fields : List Expr} (counted : fields.length = shape.arity)
    {ty : RecordType} {ctorLength : Nat} {members : List String}
    (kinded : shape.kind = .memberInit ty ctorLength members) :
    shape.rebuild fields = .ok (.memberInit ty (fields.take ctorLength) (members.zip (fields.drop ctorLength))) := by
  simp [rebuild, counted, kinded]

theorem rebuild_single {shape : Shape} {field : Expr} (counted : [field].length = shape.arity)
    (kinded : shape.kind = .member) : shape.rebuild [field] = .ok field := by
  simp [rebuild, ← counted, kinded]

theorem classify?_isSome_iff (e : Expr) : (classify? e).isSome ↔ e.IsProjection := by
  constructor
  · intro shaped
    cases e <;> simp [classify?] at shaped <;> constructor
  · rintro (_ | _ | _) <;> rfl

/-- A classified shape's fields fit its kind. -/
theorem fits_of_classify? {e : Expr} {shape : Shape} (shaped : classify? e = some shape) :
    Fits shape.kind shape.arity := by
  unfold classify? at shaped
  split at shaped <;> cases shaped
  · rfl
  · trivial
  · simp [Fits, arity]

/-- Rebuilding a classified shape from its own fields gives the projection back. -/
theorem rebuild_fields_of_classify? {e : Expr} {shape : Shape} (shaped : classify? e = some shape) :
    shape.rebuild shape.fields = .ok e := by
  unfold classify? at shaped
  split at shaped <;> cases shaped
  · exact rebuild_single rfl rfl
  · exact rebuild_new rfl rfl
  · rename_i ty ctorArgs bindings
    rw [rebuild_memberInit rfl rfl]
    have leading : (ctorArgs ++ bindings.map (·.2)).take ctorArgs.length = ctorArgs := List.take_left' rfl
    have trailing : (ctorArgs ++ bindings.map (·.2)).drop ctorArgs.length = bindings.map (·.2) :=
      List.drop_left' rfl
    have paired : (bindings.map (·.1)).zip (bindings.map (·.2)) = bindings := by
      rw [← List.unzip_fst, ← List.unzip_snd, List.zip_unzip]
    simp only [leading, trailing, paired]

/-- A record shape rebuilt from fields that fit it classifies as those fields under the same kind. -/
theorem classify?_rebuild {shape : Shape} {fields : List Expr} (counted : fields.length = shape.arity)
    (fits : Fits shape.kind fields.length) (record : shape.kind ≠ .member) :
    ∃ rebuilt, shape.rebuild fields = .ok rebuilt ∧ classify? rebuilt = some ⟨shape.kind, fields⟩ := by
  cases kinded : shape.kind with
  | member => exact absurd kinded record
  | new ty => exact ⟨_, rebuild_new counted kinded, rfl⟩
  | memberInit ty ctorLength members =>
    rw [kinded] at fits
    simp only [Fits] at fits
    have bound : (fields.drop ctorLength).length = members.length := by
      rw [List.length_drop]
      omega
    have ctorCount : (fields.take ctorLength).length = ctorLength := by
      rw [List.length_take]
      omega
    refine ⟨_, rebuild_memberInit counted kinded, ?_⟩
    simp only [classify?, ctorCount, List.map_fst_zip (Nat.le_of_eq bound.symm),
      List.map_snd_zip (Nat.le_of_eq bound), List.take_append_drop]

/-- A member shape has one field and rebuilds as that field. -/
theorem rebuild_member {shape : Shape} (fits : Fits shape.kind shape.arity) (member : shape.kind = .member) :
    shape.arity = 1 ∧ ∀ field, shape.rebuild [field] = .ok field := by
  rw [member] at fits
  exact ⟨fits, fun field => rebuild_single (by simpa using fits.symm) member⟩

/-- Linearising a projection and rebuilding it are mutually inverse. -/
theorem rebuild_inverts_classify (e : Expr) :
    ((classify? e).isSome ↔ e.IsProjection) ∧
      ∀ shape, classify? e = some shape →
        shape.rebuild shape.fields = .ok e ∧
        (shape.kind = .member → shape.arity = 1 ∧ ∀ field, shape.rebuild [field] = .ok field) ∧
        (shape.kind ≠ .member → ∀ fields : List Expr, fields.length = shape.arity →
          ∃ rebuilt, shape.rebuild fields = .ok rebuilt ∧ classify? rebuilt = some ⟨shape.kind, fields⟩) ∧
        (∀ fields : List Expr, fields.length ≠ shape.arity →
          shape.rebuild fields =
            .error (.invalidShape s!"{shape.arity} projection fields" s!"{fields.length} fields")) := by
  refine ⟨classify?_isSome_iff e, fun shape shaped => ⟨rebuild_fields_of_classify? shaped, ?_, ?_, ?_⟩⟩
  · exact rebuild_member (fits_of_classify? shaped)
  · intro record fields counted
    have fits := fits_of_classify? shaped
    rw [← counted] at fits
    exact classify?_rebuild counted fits record
  · exact fun fields counted => rebuild_eq_error counted

end Shape

/-- A member access straight off a query source is a reference when it reads a collection. -/
theorem collectionReferences_memberAccess_source (owner : SourceRef) (name : String) (ty : ValueType) :
    collectionReferences (.memberAccess (.querySource owner) name ty) =
      if ty.isCollection then [⟨owner, .memberAccess (.querySource owner) name ty⟩] else [] := by
  simp [collectionReferences]

/-- A member access whose target is not a query source has its target's references. -/
theorem collectionReferences_memberAccess_of_ne {target : Expr} (apart : ∀ owner, target ≠ .querySource owner)
    (name : String) (ty : ValueType) :
    collectionReferences (.memberAccess target name ty) = collectionReferences target := by
  cases target
  case querySource owner => exact absurd rfl (apart owner)
  all_goals rfl

@[simp] theorem collectionReferences_convert (operand : Expr) (ty : ValueType) :
    collectionReferences (.convert operand ty) = collectionReferences operand := rfl

/-- A reference whose member access reads a collection straight off the reference's owner. -/
def ReadsCollection (reference : CollectionReference) : Prop :=
  ∃ name ty, reference.member = .memberAccess (.querySource reference.owner) name ty ∧ ty.isCollection = true

/-- Every reference the scan reports is a member access of collection type straight off its
owner, lying on the field's spine. -/
theorem mem_collectionReferences {e : Expr} {reference : CollectionReference} :
    reference ∈ collectionReferences e → reference.member ∈ e.spine ∧ ReadsCollection reference := by
  fun_induction collectionReferences e with
  | case1 target name ty here ih =>
    intro found
    rcases List.mem_append.mp found with direct | deeper
    · -- the access itself, read straight off its target
      simp only [here] at direct
      split at direct
      · rename_i owner
        split at direct
        · rename_i collection
          rw [List.mem_singleton] at direct
          subst direct
          exact ⟨List.mem_cons_self, name, ty, rfl, collection⟩
        · cases direct
      · cases direct
    · obtain ⟨onSpine, reads⟩ := ih deeper
      exact ⟨List.mem_cons_of_mem _ onSpine, reads⟩
  | case2 operand ty ih =>
    intro found
    obtain ⟨onSpine, reads⟩ := ih found
    exact ⟨List.mem_cons_of_mem _ onSpine, reads⟩
  | case3 => intro found; cases found

/-- A member access of collection type straight off a source, on a field's spine, is the one
reference the scan reports. -/
theorem collectionReferences_of_mem_spine {source : SourceRef} {name : String} {ty : ValueType}
    (collection : ty.isCollection = true) : ∀ {e : Expr}, .memberAccess (.querySource source) name ty ∈ e.spine →
      collectionReferences e = [⟨source, .memberAccess (.querySource source) name ty⟩]
  | .memberAccess target name' ty', onSpine => by
    by_cases direct : ∃ owner, target = .querySource owner
    · obtain ⟨owner, rfl⟩ := direct
      simp only [Expr.spine_memberAccess, Expr.spine_querySource, List.mem_cons, Expr.memberAccess.injEq,
        Expr.querySource.injEq, reduceCtorEq, List.not_mem_nil, or_false] at onSpine
      obtain ⟨rfl, rfl, rfl⟩ := onSpine
      simp [collectionReferences_memberAccess_source, collection]
    · simp only [not_exists] at direct
      rw [collectionReferences_memberAccess_of_ne direct]
      rcases List.mem_cons.mp onSpine with same | deeper
      · cases same
        exact absurd rfl (direct source)
      · exact collectionReferences_of_mem_spine collection deeper
  | .convert operand _, onSpine => by
    rw [collectionReferences_convert]
    rcases List.mem_cons.mp onSpine with same | deeper
    · cases same
    · exact collectionReferences_of_mem_spine collection deeper
  | .querySource _, onSpine | .new .., onSpine | .memberInit .., onSpine | .parameter _, onSpine
  | .literal _, onSpine | .rowIndex .., onSpine | .tupleItem .., onSpine | .mkTuple .., onSpine
  | .groupKey _, onSpine | .cast .., onSpine | .groupBy .., onSpine | .select .., onSpine
  | .toArray _, onSpine | .newCollection .., onSpine => by
    simp [Expr.spine] at onSpine

/-- A field reads at most one collection straight off a query source. -/
theorem length_collectionReferences_le : ∀ e : Expr, (collectionReferences e).length ≤ 1
  | .memberAccess target name ty => by
    by_cases source : ∃ owner, target = .querySource owner
    · obtain ⟨owner, rfl⟩ := source
      rw [collectionReferences_memberAccess_source]
      split <;> simp
    · simp only [not_exists] at source
      rw [collectionReferences_memberAccess_of_ne source]
      exact length_collectionReferences_le target
  | .convert operand _ => length_collectionReferences_le operand
  | .querySource _ | .new .. | .memberInit .. | .parameter _ | .literal _ | .rowIndex .. | .tupleItem ..
  | .mkTuple .. | .groupKey _ | .cast .. | .groupBy .. | .select .. | .toArray _ | .newCollection .. => by
    simp [collectionReferences]

/-- The collection scan of a field reports at most one reference, found on the field's spine. -/
theorem collectionReferences_spine (e : Expr) :
    (collectionReferences e).length ≤ 1 ∧
      (collectionReferences e ≠ [] ↔
        ∃ source name ty, Expr.memberAccess (.querySource source) name ty ∈ e.spine ∧ ty.isCollection = true) ∧
      ∀ source name ty, Expr.memberAccess (.querySource source) name ty ∈ e.spine → ty.isCollection = true →
        collectionReferences e = [⟨source, .memberAccess (.querySource source) name ty⟩] := by
  refine ⟨length_collectionReferences_le e, ⟨?_, ?_⟩,
    fun source name ty onSpine collection => collectionReferences_of_mem_spine collection onSpine⟩
  · intro found
    obtain ⟨reference, member⟩ := List.exists_mem_of_ne_nil _ found
    obtain ⟨onSpine, name, ty, access, collection⟩ := mem_collectionReferences member
    exact ⟨reference.owner, name, ty, access ▸ onSpine, collection⟩
  · rintro ⟨source, name, ty, onSpine, collection⟩
    rw [collectionReferences_of_mem_spine collection onSpine]
    exact List.cons_ne_nil _ _

end Flatten

end FlatProjection
