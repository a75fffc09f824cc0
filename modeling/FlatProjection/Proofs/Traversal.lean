import Mathlib.Data.List.Forall2
/-
Steps and traversals in `Except`.
-/

namespace FlatProjection

/-! ### Single steps -/

@[simp] theorem Except.ok_bind {ε α β : Type} (a : α) (f : α → Except ε β) :
    (Except.ok a >>= f) = f a := rfl

/-- A bind in `Except` succeeds exactly when both of its halves do. -/
theorem Except.bind_eq_ok {ε α β : Type} {x : Except ε α} {f : α → Except ε β} {b : β} :
    (x >>= f) = .ok b ↔ ∃ a, x = .ok a ∧ f a = .ok b := by
  cases x <;> simp [bind, Except.bind]

/-- A bind in `Except` succeeds when its first half does and its second half succeeds on that
result. -/
theorem Except.exists_bind_ok {ε α β : Type} {x : Except ε α} {f : α → Except ε β}
    (first : ∃ a, x = .ok a) (second : ∀ a, x = .ok a → ∃ b, f a = .ok b) : ∃ b, (x >>= f) = .ok b := by
  obtain ⟨a, found⟩ := first
  obtain ⟨b, finished⟩ := second a found
  exact ⟨b, Except.bind_eq_ok.mpr ⟨a, found, finished⟩⟩

/-- A map in `Except` succeeds exactly when what it maps does. -/
theorem Except.map_eq_ok {ε α β : Type} {x : Except ε α} {f : α → β} {b : β} :
    (f <$> x) = .ok b ↔ ∃ a, x = .ok a ∧ f a = b := by
  cases x <;> simp [Functor.map, Except.map]

/-- A check followed by a constant succeeds only with the constant. -/
theorem Except.eq_of_seqRight_pure_eq_ok {ε α : Type} {x : Except ε Unit} {v t : α}
    (checked : (x *> pure v) = .ok t) : t = v := by
  cases x with
  | error e => cases checked
  | ok u => cases checked; rfl

/-! ### Traversals of lists -/

section Traversals

variable {α β ε : Type}

/-- A traversal succeeds exactly when each step succeeds, item by item. -/
theorem mapM_eq_ok_iff_forall₂ {f : α → Except ε β} {xs : List α} {ys : List β} :
    xs.mapM f = .ok ys ↔ List.Forall₂ (fun x y => f x = .ok y) xs ys := by
  induction xs generalizing ys with
  | nil => cases ys <;> simp [pure, Except.pure]
  | cons x rest ih =>
    rw [List.mapM_cons]
    cases found : f x with
    | error e => cases ys <;> simp [found, bind, Except.bind]
    | ok y =>
      cases others : rest.mapM f with
      | error e => cases ys <;> simp [bind, Except.bind, ← ih, others, found]
      | ok values => cases ys <;> simp [bind, Except.bind, pure, Except.pure, ← ih, others, found]

/-- Every result of a successful traversal is the result of one of its steps. -/
theorem exists_of_mapM_eq_ok {f : α → Except ε β} {xs : List α} {ys : List β} (mapped : xs.mapM f = .ok ys)
    {y : β} (member : y ∈ ys) : ∃ x ∈ xs, f x = .ok y := by
  have related := mapM_eq_ok_iff_forall₂.mp mapped
  clear mapped
  induction related with
  | nil => cases member
  | cons step _ ih =>
    rcases List.mem_cons.mp member with rfl | later
    · exact ⟨_, List.mem_cons_self, step⟩
    · obtain ⟨x, inside, found⟩ := ih later
      exact ⟨x, List.mem_cons_of_mem _ inside, found⟩

/-- A successful traversal gives one result per item. -/
theorem mapM_length {f : α → Except ε β} {xs : List α} {ys : List β} (mapped : xs.mapM f = .ok ys) :
    ys.length = xs.length :=
  (mapM_eq_ok_iff_forall₂.mp mapped).length_eq.symm

/-- A traversal whose every step succeeds succeeds. -/
theorem mapM_ok_of_forall {f : α → Except ε β} :
    ∀ {xs : List α}, (∀ x ∈ xs, ∃ y, f x = .ok y) → ∃ ys, xs.mapM f = .ok ys
  | [], _ => ⟨[], rfl⟩
  | x :: rest, each => by
    obtain ⟨y, found⟩ := each x (List.mem_cons_self ..)
    obtain ⟨ys, others⟩ := mapM_ok_of_forall fun other member => each other (List.mem_cons_of_mem _ member)
    exact ⟨y :: ys, by simp [found, others, bind, Except.bind, pure, Except.pure]⟩

/-- A traversal of images whose every step succeeds gives the mapped list. -/
theorem mapM_map_eq_ok {γ : Type} (f : γ → α) {F : α → Except ε β} {g : γ → β} :
    ∀ {xs : List γ}, (∀ x ∈ xs, F (f x) = .ok (g x)) → (xs.map f).mapM F = .ok (xs.map g)
  | [], _ => rfl
  | x :: rest, each => by
    have others := mapM_map_eq_ok f fun other member => each other (List.mem_cons_of_mem _ member)
    simp [each x (List.mem_cons_self ..), others, bind, Except.bind, pure, Except.pure]

/-- A fold whose every step succeeds gives the plain fold. -/
theorem foldlM_eq_ok_foldl {f : β → α → Except ε β} {g : β → α → β} :
    ∀ {xs : List α} {init : β}, (∀ acc, ∀ x ∈ xs, f acc x = .ok (g acc x)) →
      xs.foldlM f init = .ok (xs.foldl g init)
  | [], _, _ => rfl
  | x :: rest, init, each => by
    have others : rest.foldlM f (g init x) = .ok (rest.foldl g (g init x)) :=
      foldlM_eq_ok_foldl fun acc other member => each acc other (List.mem_cons_of_mem _ member)
    simp [each init x (List.mem_cons_self ..), others, bind, Except.bind]

/-- A fold whose steps succeed up to an item, and fail at that item whatever has been folded,
fails with that item's failure. -/
theorem foldlM_eq_error_of_first {f : β → α → Except ε β} {x : α} {err : ε} (after : List α)
    (failing : ∀ acc, f acc x = .error err) :
    ∀ (before : List α) (init : β), (∀ acc, ∀ y ∈ before, ∃ acc', f acc y = .ok acc') →
      (before ++ x :: after).foldlM f init = .error err
  | [], init, _ => by simp [failing, bind, Except.bind]
  | y :: rest, init, earlier => by
    obtain ⟨acc, stepped⟩ := earlier init y List.mem_cons_self
    have others := foldlM_eq_error_of_first after failing rest acc
      fun acc' z member => earlier acc' z (List.mem_cons_of_mem _ member)
    simp [stepped, others, bind, Except.bind]

end Traversals

end FlatProjection
