import FlatProjection.Proofs.Eval.Equations
/-
Evaluation depends only on the names an expression reads.
-/

namespace FlatProjection

namespace Expr

mutual

/-- Every subexpression, the expression itself first. -/
def subterms : Expr → List Expr
  | e@(.querySource _) | e@(.parameter _) | e@(.literal _) => [e]
  | e@(.memberAccess target _ _) | e@(.convert target _) | e@(.rowIndex target _)
  | e@(.tupleItem target _ _) | e@(.groupKey target) | e@(.cast target _) | e@(.toArray target)
  | e@(.newCollection _ _ target) => e :: target.subterms
  | e@(.new _ args) | e@(.mkTuple _ args) => e :: subtermsList args
  | e@(.memberInit _ ctorArgs bindings) => e :: (subtermsList ctorArgs ++ subtermsBindings bindings)
  | e@(.groupBy source _ key _ value) => e :: (source.subterms ++ key.subterms ++ value.subterms)
  | e@(.select source _ body) => e :: (source.subterms ++ body.subterms)

/-- The subexpressions of some expressions, in order. -/
def subtermsList : List Expr → List Expr
  | [] => []
  | e :: rest => e.subterms ++ subtermsList rest

/-- The subexpressions of some member bindings, in order. -/
def subtermsBindings : List (String × Expr) → List Expr
  | [] => []
  | (_, e) :: rest => e.subterms ++ subtermsBindings rest

end

/-- The name an expression looks up in its scope: a query source's or a parameter's. -/
def scopeName? : Expr → Option String
  | .querySource ref => some ref.name
  | .parameter p => some p.name
  | _ => none

/-- The names an expression reads from its scope, anywhere in it. -/
def names (e : Expr) : List String := e.subterms.filterMap scopeName?

/-- The query source an expression is, if it is one. -/
def source? : Expr → Option SourceRef
  | .querySource ref => some ref
  | _ => none

/-- The query sources an expression reads. -/
def sources (e : Expr) : List SourceRef := e.subterms.filterMap source?

/-- Whether the sources an expression reads are named by their ids: two sources with one id
have one name. -/
def sourcesNamedById (e : Expr) : Bool :=
  e.sources.all fun s => e.sources.all fun t => s.id != t.id || s.name == t.name

theorem mem_subtermsList {args : List Expr} {e : Expr} (member : e ∈ args) : e.subterms ⊆ subtermsList args := by
  induction args with
  | nil => cases member
  | cons first rest ih =>
    rcases List.mem_cons.mp member with rfl | later
    · simp [subtermsList]
    · exact fun s found => by simp [subtermsList, ih later found]

theorem mem_subtermsBindings {bindings : List (String × Expr)} {binding : String × Expr} (member : binding ∈ bindings) :
    binding.2.subterms ⊆ subtermsBindings bindings := by
  induction bindings with
  | nil => cases member
  | cons first rest ih =>
    rcases List.mem_cons.mp member with rfl | later
    · simp [subtermsBindings]
    · exact fun s found => by simp [subtermsBindings, ih later found]

theorem exists_of_mem_subtermsList {node : Expr} :
    ∀ {args : List Expr}, node ∈ subtermsList args → ∃ arg ∈ args, node ∈ arg.subterms
  | [], found => by simp [subtermsList] at found
  | arg :: rest, found => by
    rw [subtermsList, List.mem_append] at found
    rcases found with here | later
    · exact ⟨arg, List.mem_cons_self, here⟩
    · obtain ⟨other, member, inside⟩ := exists_of_mem_subtermsList later
      exact ⟨other, List.mem_cons_of_mem _ member, inside⟩

theorem exists_of_mem_subtermsBindings {node : Expr} :
    ∀ {bindings : List (String × Expr)}, node ∈ subtermsBindings bindings →
      ∃ binding ∈ bindings, node ∈ binding.2.subterms
  | [], found => by simp [subtermsBindings] at found
  | (member, e) :: rest, found => by
    rw [subtermsBindings, List.mem_append] at found
    rcases found with here | later
    · exact ⟨(member, e), List.mem_cons_self, here⟩
    · obtain ⟨other, inside, deeper⟩ := exists_of_mem_subtermsBindings later
      exact ⟨other, List.mem_cons_of_mem _ inside, deeper⟩

theorem self_mem_subterms (e : Expr) : e ∈ e.subterms := by
  cases e <;> simp [subterms]

theorem names_subset {a b : Expr} (inner : a.subterms ⊆ b.subterms) : a.names ⊆ b.names :=
  fun _ found => by
    obtain ⟨s, member, named⟩ := List.mem_filterMap.mp found
    exact List.mem_filterMap.mpr ⟨s, inner member, named⟩

theorem sources_subset {a b : Expr} (inner : a.subterms ⊆ b.subterms) : a.sources ⊆ b.sources :=
  fun _ found => by
    obtain ⟨s, member, named⟩ := List.mem_filterMap.mp found
    exact List.mem_filterMap.mpr ⟨s, inner member, named⟩

/-- A source an expression reads is a name it reads. -/
theorem mem_names_of_mem_sources {e : Expr} {source : SourceRef} (member : source ∈ e.sources) :
    source.name ∈ e.names := by
  obtain ⟨s, inside, found⟩ := List.mem_filterMap.mp member
  refine List.mem_filterMap.mpr ⟨s, inside, ?_⟩
  cases s <;> simp_all [source?, scopeName?]

/-- The source an expression stands for is a source it reads. -/
theorem mem_sources_of_asSource {e : Expr} {source : SourceRef} : e.asSource? = some source → source ∈ e.sources := by
  fun_induction asSource? e with
  | case1 ref => intro same; simp_all [sources, subterms, source?]
  | case2 operand _ ih => intro stands; exact sources_subset (by simp [subterms]) (ih stands)
  | case3 => intro stands; cases stands

theorem name_eq_of_sourcesNamedById {e : Expr} (named : e.sourcesNamedById = true) {s t : SourceRef}
    (first : s ∈ e.sources) (second : t ∈ e.sources) (same : s.id = t.id) : s.name = t.name := by
  have := List.all_eq_true.mp (List.all_eq_true.mp named s first) t second
  simpa [same] using this

end Expr

namespace Eval

theorem lookup_cons (name : String) (v : Value) (scope : Scope) (x : String) :
    lookup ((name, v) :: scope) x = if name = x then .ok v else lookup scope x := by
  by_cases same : name = x <;> simp [lookup, same]

/-- Scopes that look up some names alike still do once both bind one more name. -/
theorem lookup_agree_cons {names : List String} {σ₁ σ₂ : Scope} (agree : ∀ x ∈ names, lookup σ₁ x = lookup σ₂ x)
    (name : String) (v : Value) : ∀ x ∈ names, lookup ((name, v) :: σ₁) x = lookup ((name, v) :: σ₂) x := by
  intro x member
  rw [lookup_cons, lookup_cons, agree x member]

mutual

/-- Evaluation reads the scope only at the names the expression reads. -/
theorem evaluate_congr : ∀ {σ₁ σ₂ : Scope} (e : Expr), (∀ x ∈ e.names, lookup σ₁ x = lookup σ₂ x) →
    evaluate σ₁ e = evaluate σ₂ e
  | _, _, .querySource ref, agree => by
    simpa [evaluate] using agree ref.name (by simp [Expr.names, Expr.subterms, Expr.scopeName?])
  | _, _, .parameter p, agree => by
    simpa [evaluate] using agree p.name (by simp [Expr.names, Expr.subterms, Expr.scopeName?])
  | _, _, .literal _, _ => rfl
  | _, _, .memberAccess target _ _, agree | _, _, .convert target _, agree | _, _, .rowIndex target _, agree
  | _, _, .tupleItem target _ _, agree | _, _, .groupKey target, agree | _, _, .cast target _, agree
  | _, _, .toArray target, agree | _, _, .newCollection _ _ target, agree => by
    have inner := evaluate_congr target fun x found => agree x (Expr.names_subset (by simp [Expr.subterms]) found)
    simp only [evaluate, inner]
  | _, _, .new ty args, agree => by
    have inner := evaluateFields_congr ty.members args fun arg member x found =>
      agree x (Expr.names_subset (fun s within => by simp [Expr.subterms, Expr.mem_subtermsList member within]) found)
    simp only [evaluate, inner]
  | _, _, .mkTuple _ items, agree => by
    have inner := evaluateList_congr items fun item member x found =>
      agree x (Expr.names_subset (fun s within => by simp [Expr.subterms, Expr.mem_subtermsList member within]) found)
    simp only [evaluate, inner]
  | _, _, .memberInit ty ctorArgs bindings, agree => by
    have leading := evaluateFields_congr ty.members ctorArgs fun arg member x found =>
      agree x (Expr.names_subset (fun s within => by simp [Expr.subterms, Expr.mem_subtermsList member within]) found)
    have bound := evaluateBindings_congr bindings fun binding member x found =>
      agree x (Expr.names_subset (fun s within => by simp [Expr.subterms, Expr.mem_subtermsBindings member within]) found)
    simp only [evaluate, leading, bound]
  | _, _, .groupBy source keyParam key valueParam value, agree => by
    have listed := evaluate_congr source fun x found => agree x (Expr.names_subset (by simp [Expr.subterms]) found)
    have keyed : ∀ item, evaluate ((keyParam.name, item) :: _) key = evaluate ((keyParam.name, item) :: _) key :=
      fun item => evaluate_congr key (lookup_agree_cons
        (fun x found => agree x (Expr.names_subset (fun s within => by simp [Expr.subterms, within]) found)) _ item)
    have valued : ∀ item, evaluate ((valueParam.name, item) :: _) value = evaluate ((valueParam.name, item) :: _) value :=
      fun item => evaluate_congr value (lookup_agree_cons
        (fun x found => agree x (Expr.names_subset (fun s within => by simp [Expr.subterms, within]) found)) _ item)
    simp only [evaluate, listed, keyed, valued]
  | _, _, .select source param body, agree => by
    have listed := evaluate_congr source fun x found => agree x (Expr.names_subset (by simp [Expr.subterms]) found)
    have mapped : ∀ item, evaluate ((param.name, item) :: _) body = evaluate ((param.name, item) :: _) body :=
      fun item => evaluate_congr body (lookup_agree_cons
        (fun x found => agree x (Expr.names_subset (by simp [Expr.subterms]) found)) _ item)
    simp only [evaluate, listed, mapped]

theorem evaluateList_congr : ∀ {σ₁ σ₂ : Scope} (items : List Expr),
    (∀ e ∈ items, ∀ x ∈ e.names, lookup σ₁ x = lookup σ₂ x) → evaluateList σ₁ items = evaluateList σ₂ items
  | _, _, [], _ => rfl
  | _, _, e :: rest, agree => by
    have first := evaluate_congr e (agree e (List.mem_cons_self ..))
    have others := evaluateList_congr rest fun other member => agree other (List.mem_cons_of_mem _ member)
    simp only [evaluateList, first, others]

theorem evaluateFields_congr : ∀ {σ₁ σ₂ : Scope} (members : List (String × ValueType)) (args : List Expr),
    (∀ e ∈ args, ∀ x ∈ e.names, lookup σ₁ x = lookup σ₂ x) →
      evaluateFields σ₁ members args = evaluateFields σ₂ members args
  | _, _, (_, _) :: members, arg :: args, agree => by
    have first := evaluate_congr arg (agree arg (List.mem_cons_self ..))
    have others := evaluateFields_congr members args fun other member => agree other (List.mem_cons_of_mem _ member)
    simp only [evaluateFields, first, others]
  | _, _, [], _, _ | _, _, _ :: _, [], _ => by simp [evaluateFields]

theorem evaluateBindings_congr : ∀ {σ₁ σ₂ : Scope} (bindings : List (String × Expr)),
    (∀ binding ∈ bindings, ∀ x ∈ binding.2.names, lookup σ₁ x = lookup σ₂ x) →
      evaluateBindings σ₁ bindings = evaluateBindings σ₂ bindings
  | _, _, [], _ => rfl
  | _, _, (_, e) :: rest, agree => by
    have first := evaluate_congr e (agree (_, e) (List.mem_cons_self ..))
    have others := evaluateBindings_congr rest fun other member => agree other (List.mem_cons_of_mem _ member)
    simp only [evaluateBindings, first, others]

end

/-- An expression that stands for a source gives the value bound to the source's name. -/
theorem evaluate_of_asSource {scope : Scope} {e : Expr} {source : SourceRef} {v : Value} :
    e.asSource? = some source → evaluate scope e = .ok v → lookup scope source.name = .ok v := by
  fun_induction Expr.asSource? e with
  | case1 ref => intro same evaluated; simp_all [evaluate]
  | case2 operand _ ih => intro stands evaluated; exact ih stands (evaluate_convert_eq_ok evaluated)
  | case3 => intro stands; cases stands

/-- An expression that never reads a name evaluates alike with or without a value bound to it. -/
theorem evaluate_cons_of_not_mem {name : String} {e : Expr} (unread : name ∉ e.names) (v : Value) (scope : Scope) :
    evaluate ((name, v) :: scope) e = evaluate scope e := by
  apply evaluate_congr
  intro x member
  have other : name ≠ x := fun same => unread (same ▸ member)
  rw [lookup_cons, if_neg other]

end Eval

end FlatProjection
