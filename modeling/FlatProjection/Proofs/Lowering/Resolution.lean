import FlatProjection.Lowering.Basic
import FlatProjection.Proofs.Eval.Scope
import Mathlib.Data.List.Induction
import Mathlib.Data.List.Nodup
import Mathlib.Data.List.Forall2
/-
What lowering a written projection answers.
-/

namespace FlatProjection

namespace Expr

/-- The member path an expression reads: a query source followed by member accesses. -/
def memberPath? : Expr → Option Projection.MemberPath
  | .querySource ref => some ⟨ref.name, []⟩
  | .memberAccess target member _ => target.memberPath?.map fun path => ⟨path.root, path.members ++ [member]⟩
  | _ => none

end Expr

namespace Projection

/-- The fields of a record projection with the member names they fill, in written order. -/
def Term.namedPaths : Term → List (String × MemberPath)
  | .path _ => []
  | .anonymous fields => fields.map fun field => (field.memberName, field.path)
  | .construct _ args => args.map fun arg => (arg.defaultName, arg)
  | .memberInit _ ctorArgs bindings =>
    ctorArgs.map (fun arg => (arg.defaultName, arg)) ++ bindings.map fun binding => (binding.member, binding.path)

end Projection

namespace Lowering

open Projection Catalog

section Outcome

variable (catalog : EntityCatalog) (scope : SourceScope)

/-- Every query source an expression reads is the scope's source of its name, and every member
it reads is read off an entity at the type the catalog gives that entity's property. -/
def WellResolved (e : Expr) : Prop :=
  (∀ source ∈ e.sources, scope.get? source.name = some source) ∧
    ∀ node ∈ e.subterms, ∀ target member ty, node = .memberAccess target member ty →
      ∃ entity, target.ty = .entity entity ∧ catalog.propertyType entity member = .ok ty

/-- An expression reads a written path when it is that path, well resolved. -/
def Reads (path : MemberPath) (e : Expr) : Prop := e.memberPath? = some path ∧ WellResolved catalog scope e

/-- How a path fails to resolve. -/
def PathFailure (path : MemberPath) (err : ConversionError) : Prop :=
  (scope.get? path.root = none ∧ err = .unknownSource path.root) ∨
    ∃ done member rest e, path.members = done ++ member :: rest ∧ Reads catalog scope ⟨path.root, done⟩ e ∧
      ((∃ entity failure, e.ty = .entity entity ∧ catalog.propertyType entity member = .error failure ∧
          err = .catalog failure) ∨
        ((∀ entity, e.ty ≠ .entity entity) ∧ err = .notAnEntity member e.ty.render))

/-- The first failure met lowering named paths after the member names `known`. -/
def FirstFailure (known : List String) (named : List (String × MemberPath)) (err : ConversionError) : Prop :=
  ∃ done entry rest, named = done ++ entry :: rest ∧ (∀ earlier ∈ done, ∃ e, Reads catalog scope earlier.2 e) ∧
    (known ++ done.map (·.1)).Nodup ∧
    (PathFailure catalog scope entry.2 err ∨
      (∃ e, Reads catalog scope entry.2 e) ∧ entry.1 ∈ known ++ done.map (·.1) ∧ err = .duplicateMember entry.1)

/-- Record fields lowered to `args`: their names are pairwise distinct and each expression reads
its field's path. -/
def FieldsRead (named : List (String × MemberPath)) (args : List Expr) : Prop :=
  (named.map (·.1)).Nodup ∧ List.Forall₂ (fun entry arg => Reads catalog scope entry.2 arg) named args

/-- What lowering a written projection answers. -/
def LoweringOutcome (term : Term) : Except ConversionError Expr → Prop
  | .ok e => WellResolved catalog scope e ∧
    match term with
    | .path path => e.memberPath? = some path
    | .anonymous _ => ∃ args, e = .new ⟨none, (term.namedPaths.map (·.1)).zip (args.map Expr.ty)⟩ args ∧
      FieldsRead catalog scope term.namedPaths args
    | .construct name _ => ∃ args, e = .new ⟨some name, (term.namedPaths.map (·.1)).zip (args.map Expr.ty)⟩ args ∧
      FieldsRead catalog scope term.namedPaths args
    | .memberInit name ctorArgs bindings => ∃ lowered bound,
      e = .memberInit ⟨some name, (term.namedPaths.map (·.1)).zip ((lowered ++ bound).map Expr.ty)⟩ lowered
        ((bindings.map (·.member)).zip bound) ∧
        lowered.length = ctorArgs.length ∧ FieldsRead catalog scope term.namedPaths (lowered ++ bound)
  | .error err =>
    match term with
    | .path path => PathFailure catalog scope path err
    | _ => FirstFailure catalog scope [] term.namedPaths err

end Outcome

/-! ### Paths -/

section Paths

variable {catalog : EntityCatalog} {scope : SourceScope}

/-- The step that reads one more member off the expression of a path: the member must be a
property of the entity the expression has. -/
def readMember (catalog : EntityCatalog) (e : Expr) (member : String) : Except ConversionError Expr :=
  match e.ty with
  | .entity entity =>
    match catalog.propertyType entity member with
    | .ok ty => .ok (.memberAccess e member ty)
    | .error failure => .error (.catalog failure)
  | other => .error (.notAnEntity member other.render)

theorem readMember_of_entity {e : Expr} {entity member : String} (typed : e.ty = .entity entity) :
    readMember catalog e member =
      match catalog.propertyType entity member with
      | .ok ty => .ok (.memberAccess e member ty)
      | .error failure => .error (.catalog failure) := by
  simp [readMember, typed]

theorem readMember_of_not_entity {e : Expr} {member : String} (untyped : ∀ entity, e.ty ≠ .entity entity) :
    readMember catalog e member = .error (.notAnEntity member e.ty.render) := by
  unfold readMember
  split
  · rename_i entity typed
    exact absurd typed (untyped entity)
  · rfl

/-- A bare root lowers to the scope's source of its name. -/
theorem lowerPath_root (root : String) :
    lowerPath catalog scope ⟨root, []⟩ =
      match scope.get? root with
      | some source => .ok (.querySource source)
      | none => .error (.unknownSource root) := by
  unfold lowerPath
  cases scope.get? root <;> rfl

/-- A path one member longer reads that member off the shorter path's expression. -/
theorem lowerPath_append (root : String) (members : List String) (member : String) :
    lowerPath catalog scope ⟨root, members ++ [member]⟩ =
      lowerPath catalog scope ⟨root, members⟩ >>= fun e => readMember catalog e member := by
  unfold lowerPath
  cases scope.get? root with
  | none => rfl
  | some source =>
    simp only [List.foldlM_append, List.foldlM_cons, List.foldlM_nil, bind_pure]
    rfl

/-- The scope's source of a name has that name. -/
theorem name_of_get? {root : String} {source : SourceRef} (found : scope.get? root = some source) :
    source.name = root := by
  simpa using List.find?_some found

/-- A source of the scope under its own name is well resolved. -/
theorem wellResolved_querySource {source : SourceRef} (found : scope.get? source.name = some source) :
    WellResolved catalog scope (.querySource source) := by
  refine ⟨?_, ?_⟩
  · intro other member
    simp only [Expr.sources, Expr.subterms, List.filterMap_cons, Expr.source?, List.filterMap_nil,
      List.mem_singleton] at member
    rwa [member]
  · intro node inside target member ty same
    simp only [Expr.subterms, List.mem_singleton] at inside
    subst inside
    cases same

/-- A member read off a well-resolved target at the type the catalog gives it is well resolved. -/
theorem wellResolved_memberAccess {target : Expr} {member : String} {ty : ValueType} {entity : String}
    (resolved : WellResolved catalog scope target) (typed : target.ty = .entity entity)
    (declared : catalog.propertyType entity member = .ok ty) :
    WellResolved catalog scope (.memberAccess target member ty) := by
  obtain ⟨sources, members⟩ := resolved
  refine ⟨?_, ?_⟩
  · intro source found
    apply sources source
    simpa [Expr.sources, Expr.subterms, Expr.source?] using found
  · intro node inside target' member' ty' same
    rcases List.mem_cons.mp inside with rfl | deeper
    · cases same
      exact ⟨entity, typed, declared⟩
    · exact members node deeper target' member' ty' same

/-- A failure on a path is a failure on every longer path. -/
theorem PathFailure.append {root : String} {members : List String} {err : ConversionError}
    (failed : PathFailure catalog scope ⟨root, members⟩ err) (member : String) :
    PathFailure catalog scope ⟨root, members ++ [member]⟩ err := by
  rcases failed with undeclared | ⟨done, next, rest, e, parts, read, failure⟩
  · exact .inl undeclared
  · dsimp only at parts
    exact .inr ⟨done, next, rest ++ [member], e, by simp [parts], read, failure⟩

/-- A path lowers to an expression that reads it, or fails as `PathFailure` says. -/
theorem lowerPath_outcome (path : MemberPath) :
    match lowerPath catalog scope path with
    | .ok e => Reads catalog scope path e
    | .error err => PathFailure catalog scope path err := by
  obtain ⟨root, members⟩ := path
  induction members using List.reverseRecOn with
  | nil =>
    rw [lowerPath_root]
    cases found : scope.get? root with
    | none => exact .inl ⟨found, rfl⟩
    | some source =>
      have named := name_of_get? found
      refine ⟨by simp [Expr.memberPath?, named], wellResolved_querySource (named ▸ found)⟩
  | append_singleton members member ih =>
    rw [lowerPath_append]
    cases shorter : lowerPath catalog scope ⟨root, members⟩ with
    | error err =>
      rw [shorter] at ih
      exact PathFailure.append ih member
    | ok e =>
      rw [shorter] at ih
      obtain ⟨path, resolved⟩ := ih
      simp only [bind, Except.bind]
      by_cases isEntity : ∃ entity, e.ty = .entity entity
      · obtain ⟨entity, typed⟩ := isEntity
        rw [readMember_of_entity typed]
        cases declared : catalog.propertyType entity member with
        | ok ty => exact ⟨by simp [Expr.memberPath?, path], wellResolved_memberAccess resolved typed declared⟩
        | error failure => exact .inr ⟨members, member, [], e, rfl, ⟨path, resolved⟩, .inl ⟨entity, failure, typed, declared, rfl⟩⟩
      · have untyped : ∀ entity, e.ty ≠ .entity entity := fun entity typed => isEntity ⟨entity, typed⟩
        rw [readMember_of_not_entity untyped]
        exact .inr ⟨members, member, [], e, rfl, ⟨path, resolved⟩, .inr ⟨untyped, rfl⟩⟩

end Paths

/-! ### Fields -/

section Fields

variable {catalog : EntityCatalog} {scope : SourceScope}

/-- One step of lowering named paths: lower the path, add its member, keep its expression. -/
def lowerStep (catalog : EntityCatalog) (scope : SourceScope) (done : List (String × ValueType) × List Expr)
    (entry : String × MemberPath) : Except ConversionError (List (String × ValueType) × List Expr) := do
  let expr ← lowerPath catalog scope entry.2
  let members ← pushMember done.1 entry.1 expr.ty
  return (members, done.2 ++ [expr])

theorem lowerNamed_eq_foldlM (known : List (String × ValueType)) (named : List (String × MemberPath)) :
    lowerNamed catalog scope known named = named.foldlM (lowerStep catalog scope) (known, []) := rfl

/-- A member is added exactly when its name is new. -/
theorem pushMember_eq (members : List (String × ValueType)) (name : String) (ty : ValueType) :
    pushMember members name ty =
      if name ∈ members.map (·.1) then .error (.duplicateMember name) else .ok (members ++ [(name, ty)]) := by
  unfold pushMember
  congr 1
  simp

/-- Lowering named paths reads them all with distinct names, or answers the first failure. -/
theorem foldlM_lowerStep_outcome (named : List (String × MemberPath)) :
    ∀ (known : List (String × ValueType)) (acc : List Expr), (known.map (·.1)).Nodup →
      match named.foldlM (lowerStep catalog scope) (known, acc) with
      | .ok (members, args) => ∃ exprs, args = acc ++ exprs ∧
        members = known ++ (named.map (·.1)).zip (exprs.map Expr.ty) ∧ (known.map (·.1) ++ named.map (·.1)).Nodup ∧
        List.Forall₂ (fun entry arg => Reads catalog scope entry.2 arg) named exprs
      | .error err => FirstFailure catalog scope (known.map (·.1)) named err := by
  induction named with
  | nil =>
    intro known acc distinct
    exact ⟨[], by simp, by simp, by simpa using distinct, .nil⟩
  | cons entry rest ih =>
    intro known acc distinct
    have path := @lowerPath_outcome catalog scope entry.2
    rw [List.foldlM_cons]
    simp only [lowerStep, bind, Except.bind]
    cases lowered : lowerPath catalog scope entry.2 with
    | error err =>
      rw [lowered] at path
      exact ⟨[], entry, rest, rfl, nofun, by simpa using distinct, .inl path⟩
    | ok e =>
      rw [lowered] at path
      simp only [pushMember_eq]
      by_cases taken : entry.1 ∈ known.map (·.1)
      · simp only [taken, if_true]
        exact ⟨[], entry, rest, rfl, nofun, by simpa using distinct, .inr ⟨⟨e, path⟩, by simpa using taken, rfl⟩⟩
      · simp only [taken, if_false, pure, Except.pure]
        have grown : ((known ++ [(entry.1, e.ty)]).map (·.1)).Nodup := by
          rw [List.map_append, List.map_singleton, ← List.concat_eq_append]
          exact List.Nodup.concat taken distinct
        have later := ih (known ++ [(entry.1, e.ty)]) (acc ++ [e]) grown
        cases finished : rest.foldlM (lowerStep catalog scope) (known ++ [(entry.1, e.ty)], acc ++ [e]) with
        | ok result =>
          rw [finished] at later
          obtain ⟨members, args⟩ := result
          obtain ⟨exprs, rfl, rfl, names, reads⟩ := later
          refine ⟨e :: exprs, by simp, by simp, by simpa using names, .cons path reads⟩
        | error err =>
          rw [finished] at later
          obtain ⟨done, failing, after, rfl, earlier, names, failure⟩ := later
          refine ⟨entry :: done, failing, after, rfl, ?_, by simpa using names, by simpa using failure⟩
          intro earlierEntry member
          rcases List.mem_cons.mp member with rfl | inDone
          · exact ⟨e, path⟩
          · exact earlier earlierEntry inDone

/-- Lowering named paths after members `known` reads every path and keeps the names distinct,
one member per path, or answers the first failure. -/
theorem lowerNamed_outcome (known : List (String × ValueType)) (named : List (String × MemberPath))
    (distinct : (known.map (·.1)).Nodup) :
    match lowerNamed catalog scope known named with
    | .ok (members, args) => members = known ++ (named.map (·.1)).zip (args.map Expr.ty) ∧
      (known.map (·.1) ++ named.map (·.1)).Nodup ∧ List.Forall₂ (fun entry arg => Reads catalog scope entry.2 arg) named args
    | .error err => FirstFailure catalog scope (known.map (·.1)) named err := by
  have outcome := @foldlM_lowerStep_outcome catalog scope named known [] distinct
  rw [lowerNamed_eq_foldlM]
  cases lowered : named.foldlM (lowerStep catalog scope) (known, []) with
  | error err =>
    rw [lowered] at outcome
    exact outcome
  | ok result =>
    rw [lowered] at outcome
    obtain ⟨members, args⟩ := result
    obtain ⟨exprs, rfl, rfl, names, reads⟩ := outcome
    exact ⟨by simp, names, by simpa using reads⟩

/-- A first failure among some fields is a first failure among more fields after them. -/
theorem FirstFailure.append {known : List String} {named : List (String × MemberPath)} {err : ConversionError}
    (failed : FirstFailure catalog scope known named err) (more : List (String × MemberPath)) :
    FirstFailure catalog scope known (named ++ more) err := by
  obtain ⟨done, entry, rest, rfl, earlier, names, failure⟩ := failed
  exact ⟨done, entry, rest ++ more, by simp, earlier, names, failure⟩

/-- A first failure after fields that all read is a first failure among those fields and the
ones after them. -/
theorem FirstFailure.prepend {known : List String} {first named : List (String × MemberPath)} {err : ConversionError}
    (reads : ∀ entry ∈ first, ∃ e, Reads catalog scope entry.2 e)
    (failed : FirstFailure catalog scope (known ++ first.map (·.1)) named err) :
    FirstFailure catalog scope known (first ++ named) err := by
  obtain ⟨done, entry, rest, rfl, earlier, names, failure⟩ := failed
  refine ⟨first ++ done, entry, rest, by simp, ?_, by simpa using names, by simpa using failure⟩
  intro earlierEntry member
  rcases List.mem_append.mp member with inFirst | inDone
  · exact reads earlierEntry inFirst
  · exact earlier earlierEntry inDone

end Fields

/-! ### Projections -/

section Projections

variable {catalog : EntityCatalog} {scope : SourceScope}

/-- An expression whose nodes are its own or those of well-resolved parts, and which is itself
neither a source nor a member read, is well resolved. -/
theorem wellResolved_of_parts {e : Expr} {parts : List Expr} (resolved : ∀ part ∈ parts, WellResolved catalog scope part)
    (covered : ∀ node ∈ e.subterms, node = e ∨ ∃ part ∈ parts, node ∈ part.subterms)
    (notSource : e.source? = none) (notMember : ∀ target member ty, e ≠ .memberAccess target member ty) :
    WellResolved catalog scope e := by
  refine ⟨?_, ?_⟩
  · intro source found
    obtain ⟨node, inside, named⟩ := List.mem_filterMap.mp found
    rcases covered node inside with rfl | ⟨part, member, deeper⟩
    · rw [notSource] at named
      cases named
    · exact (resolved part member).1 source (List.mem_filterMap.mpr ⟨node, deeper, named⟩)
  · intro node inside target member ty same
    rcases covered node inside with rfl | ⟨part, listed, deeper⟩
    · exact absurd same (notMember target member ty)
    · exact (resolved part listed).2 node deeper target member ty same

theorem wellResolved_new {record : RecordType} {args : List Expr} (resolved : ∀ arg ∈ args, WellResolved catalog scope arg) :
    WellResolved catalog scope (.new record args) := by
  refine wellResolved_of_parts resolved (fun node inside => ?_) rfl nofun
  rcases List.mem_cons.mp inside with rfl | deeper
  · exact .inl rfl
  · exact .inr (Expr.exists_of_mem_subtermsList deeper)

theorem wellResolved_memberInit {record : RecordType} {ctorArgs : List Expr} {bindings : List (String × Expr)}
    (resolved : ∀ arg ∈ ctorArgs ++ bindings.map (·.2), WellResolved catalog scope arg) :
    WellResolved catalog scope (.memberInit record ctorArgs bindings) := by
  refine wellResolved_of_parts resolved (fun node inside => ?_) rfl nofun
  rcases List.mem_cons.mp inside with rfl | deeper
  · exact .inl rfl
  rcases List.mem_append.mp deeper with ctor | bound
  · obtain ⟨arg, member, within⟩ := Expr.exists_of_mem_subtermsList ctor
    exact .inr ⟨arg, List.mem_append_left _ member, within⟩
  · obtain ⟨binding, member, within⟩ := Expr.exists_of_mem_subtermsBindings bound
    exact .inr ⟨binding.2, List.mem_append_right _ (List.mem_map_of_mem member), within⟩

/-- Each of several expressions that read their fields' paths is well resolved. -/
theorem wellResolved_of_forall₂ {named : List (String × MemberPath)} {args : List Expr}
    (reads : List.Forall₂ (fun entry arg => Reads catalog scope entry.2 arg) named args) :
    ∀ arg ∈ args, WellResolved catalog scope arg := by
  intro arg member
  induction reads with
  | nil => cases member
  | cons read _ ih =>
    rcases List.mem_cons.mp member with rfl | later
    · exact read.2
    · exact ih later

/-- Each of several fields lowered to expressions that read their paths reads. -/
theorem reads_of_forall₂ {named : List (String × MemberPath)} {args : List Expr}
    (reads : List.Forall₂ (fun entry arg => Reads catalog scope entry.2 arg) named args) :
    ∀ entry ∈ named, ∃ e, Reads catalog scope entry.2 e := by
  intro entry member
  induction reads with
  | nil => cases member
  | cons read _ ih =>
    rcases List.mem_cons.mp member with rfl | later
    · exact ⟨_, read⟩
    · exact ih later

/-- A record built by `new` is well resolved, or lowering fails at its first failing field. -/
theorem lowerNew_outcome (record : Option String) (named : List (String × MemberPath)) :
    match (do
        let (members, args) ← lowerNamed catalog scope [] named
        return Expr.new ⟨record, members⟩ args : Except ConversionError Expr) with
    | .ok e => WellResolved catalog scope e ∧
      ∃ args, e = .new ⟨record, (named.map (·.1)).zip (args.map Expr.ty)⟩ args ∧ FieldsRead catalog scope named args
    | .error err => FirstFailure catalog scope [] named err := by
  have outcome := @lowerNamed_outcome catalog scope [] named List.nodup_nil
  simp only [bind, Except.bind]
  cases lowered : lowerNamed catalog scope [] named with
  | error err =>
    rw [lowered] at outcome
    exact outcome
  | ok result =>
    rw [lowered] at outcome
    obtain ⟨members, args⟩ := result
    obtain ⟨rfl, names, reads⟩ := outcome
    exact ⟨wellResolved_new (wellResolved_of_forall₂ reads), args, rfl, by simpa using names, reads⟩

/-- Lowering yields a well-typed projection that reads the written paths, or the first
resolution error. -/
theorem lowerProjection_outcome (catalog : EntityCatalog) (scope : SourceScope) (term : Term) :
    LoweringOutcome catalog scope term (lowerProjection catalog scope term) := by
  cases term with
  | path path =>
    have outcome := @lowerPath_outcome catalog scope path
    simp only [lowerProjection]
    cases lowered : lowerPath catalog scope path with
    | error err =>
      rw [lowered] at outcome
      exact outcome
    | ok e =>
      rw [lowered] at outcome
      exact ⟨outcome.2, outcome.1⟩
  | anonymous fields => exact lowerNew_outcome none _
  | construct name args => exact lowerNew_outcome (some name) _
  | memberInit name ctorArgs bindings =>
    have ctorOutcome := @lowerNamed_outcome catalog scope []
      (ctorArgs.map fun arg => (arg.defaultName, arg)) List.nodup_nil
    simp only [lowerProjection, bind, Except.bind]
    cases loweredCtor : lowerNamed catalog scope [] (ctorArgs.map fun arg => (arg.defaultName, arg)) with
    | error err =>
      rw [loweredCtor] at ctorOutcome
      exact ctorOutcome.append _
    | ok ctorResult =>
      rw [loweredCtor] at ctorOutcome
      obtain ⟨members, lowered⟩ := ctorResult
      obtain ⟨named, ctorNames, ctorReads⟩ := ctorOutcome
      have counted := ctorReads.length_eq
      have memberNames : members.map (·.1) = ctorArgs.map MemberPath.defaultName := by
        rw [named, List.nil_append, List.map_fst_zip (by simp [← counted])]
        simp
      have bindingOutcome := @lowerNamed_outcome catalog scope members
        (bindings.map fun binding => (binding.member, binding.path)) (by simpa [memberNames, Function.comp_def] using ctorNames)
      dsimp only
      cases loweredBindings : lowerNamed catalog scope members (bindings.map fun binding => (binding.member, binding.path)) with
      | error err =>
        rw [loweredBindings, memberNames] at bindingOutcome
        show FirstFailure catalog scope []
          ((ctorArgs.map fun arg => (arg.defaultName, arg)) ++ bindings.map fun binding => (binding.member, binding.path)) err
        exact FirstFailure.prepend (reads_of_forall₂ ctorReads) (by simpa [Function.comp_def] using bindingOutcome)
      | ok bindingResult =>
        rw [loweredBindings] at bindingOutcome
        obtain ⟨allMembers, bound⟩ := bindingResult
        obtain ⟨rfl, bindingNames, bindingReads⟩ := bindingOutcome
        rw [memberNames] at bindingNames
        refine ⟨wellResolved_memberInit fun arg member => ?_, lowered, bound, ?_, by simpa using counted.symm,
          by simpa [Term.namedPaths, Function.comp_def] using bindingNames, List.rel_append ctorReads bindingReads⟩
        · rcases List.mem_append.mp member with ctor | binding
          · exact wellResolved_of_forall₂ ctorReads arg ctor
          · obtain ⟨pair, inside, rfl⟩ := List.mem_map.mp binding
            exact wellResolved_of_forall₂ bindingReads _ (List.of_mem_zip inside).2
        · have lengths : ((ctorArgs.map fun arg => (arg.defaultName, arg)).map (·.1)).length = (lowered.map Expr.ty).length := by
            simpa using counted
          rw [named, List.nil_append]
          simp only [Term.namedPaths, List.map_append]
          rw [List.zip_append lengths]

end Projections

end Lowering

end FlatProjection
