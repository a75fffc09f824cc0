import FlatProjection.Proofs.Projection.Language
/-
Where and why reading a projection gives up.
-/

namespace FlatProjection.Projection

open Step

/-- Every place a reply names lies inside the input: the rest of a success and the rest of
every trace entry are suffixes of it. -/
def Reply.within {α : Type} (input : List Char) : Reply α → Prop
  | .ok _ rest => rest <:+ input
  | .miss trace | .fail trace => ∀ entry ∈ trace, entry.1 <:+ input

/-- The trace of a reply that gives up. -/
def Reply.trace? {α : Type} : Reply α → Option Trace
  | .ok .. => none
  | .miss trace | .fail trace => some trace

/-- A step whose replies stay inside their input. -/
def Step.Within {α : Type} (step : Step α) : Prop := ∀ input, (step input).within input

theorem Reply.within.mono {α : Type} {reply : Reply α} {inner outer : List Char}
    (inside : reply.within inner) (suffix : inner <:+ outer) : reply.within outer := by
  cases reply with
  | ok value rest => exact List.IsSuffix.trans inside suffix
  | miss trace => exact fun entry member => (inside entry member).trans suffix
  | fail trace => exact fun entry member => (inside entry member).trans suffix

/-- An entry placed at the input itself keeps a trace inside the input. -/
theorem Reply.within_labelled {trace : Trace} {input : List Char} (cause : Cause)
    (inside : ∀ entry ∈ trace, entry.1 <:+ input) : ∀ entry ∈ trace ++ [(input, cause)], entry.1 <:+ input :=
  List.forall_mem_append.mpr ⟨inside, List.forall_mem_singleton.mpr (List.suffix_refl input)⟩

theorem Reply.within_of_trace? {α : Type} {reply : Reply α} {input : List Char} {trace : Trace}
    (inside : reply.within input) (gaveUp : reply.trace? = some trace) : ∀ entry ∈ trace, entry.1 <:+ input := by
  cases reply with
  | ok value rest => cases gaveUp
  | miss found =>
    cases gaveUp
    exact inside
  | fail found =>
    cases gaveUp
    exact inside

/-! ### The combinators keep their replies inside their input -/

namespace Step

variable {α β : Type} {step first second : Step α}

theorem pure_within (value : α) : (pure value : Step α).Within := fun input => List.suffix_refl input

theorem failHere_within (label : String) : (failHere label : Step α).Within :=
  fun input => List.forall_mem_singleton.mpr (List.suffix_refl input)

theorem satisfy_within (test : Char → Bool) : (satisfy test).Within := by
  intro input
  cases input with
  | nil => simp [satisfy, Reply.within]
  | cons c rest =>
    by_cases passes : test c
    · simp [satisfy, passes, Reply.within]
    · simp [satisfy, passes, Reply.within]

theorem char_within (c : Char) : (char c).Within := satisfy_within _

theorem tag_within (word : String) : (tag word).Within := by
  intro input
  by_cases prefixed : word.toList.isPrefixOf input
  · simp only [tag, prefixed, if_true, Reply.within]
    exact List.drop_suffix _ _
  · simp [tag, prefixed, Reply.within]

theorem takeWhile_within (test : Char → Bool) : (Step.takeWhile test).Within :=
  fun _ => List.dropWhile_suffix test

theorem blanks_within : blanks.Within := fun _ => List.dropWhile_suffix Text.isAsciiSpace

theorem bind_within {next : α → Step β} (firstWithin : step.Within) (nextWithin : ∀ value, (next value).Within) :
    (step >>= next).Within := by
  intro input
  have inside := firstWithin input
  rw [bind_apply]
  cases read : step input with
  | ok value rest =>
    rw [read] at inside
    exact (nextWithin value rest).mono inside
  | miss trace =>
    rw [read] at inside
    exact inside
  | fail trace =>
    rw [read] at inside
    exact inside

theorem padded_within (within : step.Within) : (padded step).Within :=
  bind_within blanks_within fun _ => bind_within within fun value =>
    bind_within blanks_within fun _ => pure_within value

/-- A label is placed at the labelled step's own input. -/
theorem context_within (label : String) (within : step.Within) : (context label step).Within := by
  intro input
  have inside := within input
  simp only [context]
  cases read : step input with
  | ok value rest =>
    rw [read] at inside
    exact inside
  | miss trace =>
    rw [read] at inside
    exact Reply.within_labelled _ inside
  | fail trace =>
    rw [read] at inside
    exact Reply.within_labelled _ inside

theorem cut_within (within : step.Within) : (cut step).Within := by
  intro input
  have inside := within input
  simp only [cut]
  cases read : step input with
  | ok value rest =>
    rw [read] at inside
    exact inside
  | miss trace =>
    rw [read] at inside
    exact inside
  | fail trace =>
    rw [read] at inside
    exact inside

/-- A choice that misses both ways adds its own entry at its input. -/
theorem orElse_within (firstWithin : first.Within) (secondWithin : second.Within) :
    (orElse first second).Within := by
  intro input
  have firstInside := firstWithin input
  have secondInside := secondWithin input
  simp only [orElse]
  cases read : first input with
  | ok value rest =>
    rw [read] at firstInside
    exact firstInside
  | fail trace =>
    rw [read] at firstInside
    exact firstInside
  | miss trace =>
    cases other : second input with
    | ok value rest =>
      rw [other] at secondInside
      exact secondInside
    | fail trace =>
      rw [other] at secondInside
      exact secondInside
    | miss trace =>
      rw [other] at secondInside
      exact Reply.within_labelled _ secondInside

theorem optional_within (within : step.Within) : (optional step).Within := by
  intro input
  have inside := within input
  simp only [optional]
  cases read : step input with
  | ok value rest =>
    rw [read] at inside
    exact inside
  | miss trace => exact List.suffix_refl input
  | fail trace =>
    rw [read] at inside
    exact inside

theorem notFollowedBy_within (within : step.Within) : (notFollowedBy step).Within := by
  intro input
  have inside := within input
  simp only [notFollowedBy]
  cases read : step input with
  | ok value rest => simp [Reply.within]
  | miss trace => exact List.suffix_refl input
  | fail trace =>
    rw [read] at inside
    exact inside

/-- The rounds of a separated list stay inside the input: each round starts where the last
one ended, and a round that gives up does so inside what it was given. -/
theorem separatedRest_within {separator : Step β} {item : Step α} (separatorWithin : separator.Within)
    (itemWithin : item.Within) (acc : List α) (input : List Char) :
    (separatedRest separator item acc input).within input := by
  fun_induction separatedRest separator item acc input with
  | case1 acc input trace missed => exact List.suffix_refl input
  | case2 acc input trace failed =>
    have inside := separatorWithin input
    rw [failed] at inside
    exact inside
  | case3 acc input mark after separated shorter trace missed => exact List.suffix_refl input
  | case4 acc input mark after separated shorter trace failed =>
    have afterInside := separatorWithin input
    have inside := itemWithin after
    rw [separated] at afterInside
    rw [failed] at inside
    exact Reply.within.mono inside afterInside
  | case5 acc input mark after separated shorter value rest read consumed ih =>
    have afterInside := separatorWithin input
    have restInside := itemWithin after
    rw [separated] at afterInside
    rw [read] at restInside
    exact ih.mono (List.IsSuffix.trans restInside afterInside)
  | case6 acc input mark after separated shorter value rest read stuck =>
    have afterInside := separatorWithin input
    have restInside := itemWithin after
    rw [separated] at afterInside
    rw [read] at restInside
    exact List.forall_mem_singleton.mpr (List.IsSuffix.trans restInside afterInside)
  | case7 acc input mark after separated stuck =>
    have afterInside := separatorWithin input
    rw [separated] at afterInside
    exact List.forall_mem_singleton.mpr afterInside

theorem separatedList1_within {separator : Step β} {item : Step α} (separatorWithin : separator.Within)
    (itemWithin : item.Within) : (separatedList1 separator item).Within := by
  intro input
  have inside := itemWithin input
  simp only [separatedList1]
  cases read : item input with
  | ok value rest =>
    rw [read] at inside
    exact (separatedRest_within separatorWithin itemWithin [value] rest).mono inside
  | miss trace =>
    rw [read] at inside
    exact inside
  | fail trace =>
    rw [read] at inside
    exact inside

theorem separatedList0_within {separator : Step β} {item : Step α} (separatorWithin : separator.Within)
    (itemWithin : item.Within) : (separatedList0 separator item).Within := by
  intro input
  have inside := itemWithin input
  simp only [separatedList0]
  cases read : item input with
  | ok value rest =>
    rw [read] at inside
    exact (separatedRest_within separatorWithin itemWithin [value] rest).mono inside
  | miss trace => exact List.suffix_refl input
  | fail trace =>
    rw [read] at inside
    exact inside

end Step

/-! ### The grammar keeps its replies inside its input -/

theorem identifier_within : identifier.Within :=
  bind_within (satisfy_within _) fun _ => bind_within (Step.takeWhile_within _) fun _ => pure_within _

theorem memberPath_within : memberPath.Within :=
  bind_within (separatedList1_within (char_within '.') identifier_within) fun parts => by
    cases parts with
    | nil => exact pure_within _
    | cons root members => exact pure_within _

theorem newKeyword_within : newKeyword.Within :=
  bind_within (tag_within "new") fun _ => notFollowedBy_within (satisfy_within _)

theorem projectionField_within : projectionField.Within := by
  refine bind_within (optional_within (bind_within (padded_within identifier_within) fun _ =>
    bind_within (padded_within (char_within '=')) fun _ => pure_within _)) fun name => ?_
  cases name with
  | some written =>
    exact bind_within (context_within _ (cut_within (padded_within memberPath_within))) fun _ => pure_within _
  | none => exact bind_within (padded_within memberPath_within) fun _ => pure_within _

theorem memberBinding_within : memberBinding.Within :=
  bind_within (padded_within identifier_within) fun _ =>
    bind_within (context_within _ (cut_within (padded_within (char_within '=')))) fun _ =>
      bind_within (context_within _ (cut_within (padded_within memberPath_within))) fun _ => pure_within _

theorem anonymousBody_within : anonymousBody.Within :=
  bind_within (padded_within (char_within _)) fun _ =>
    bind_within (context_within _ (separatedList1_within (padded_within (char_within ',')) projectionField_within))
      fun _ => bind_within (context_within _ (cut_within (padded_within (char_within _)))) fun _ => pure_within _

theorem namedBody_within : namedBody.Within := by
  refine bind_within (padded_within identifier_within) fun typeName => ?_
  refine bind_within (optional_within (bind_within (padded_within (char_within '(')) fun _ =>
    bind_within (separatedList0_within (padded_within (char_within ',')) (padded_within memberPath_within)) fun _ =>
      bind_within (context_within _ (cut_within (padded_within (char_within ')')))) fun _ => pure_within _))
    fun ctorArgs => ?_
  refine bind_within (optional_within (bind_within (padded_within (char_within _)) fun _ =>
    bind_within (separatedList0_within (padded_within (char_within ',')) memberBinding_within) fun _ =>
      bind_within (context_within _ (cut_within (padded_within (char_within _)))) fun _ => pure_within _))
    fun bindings => ?_
  cases bindings with
  | some bindings => exact pure_within _
  | none =>
    cases ctorArgs with
    | some args => exact pure_within _
    | none => exact failHere_within _

theorem newExpression_within : newExpression.Within :=
  bind_within (padded_within newKeyword_within) fun _ =>
    cut_within (context_within _ (orElse_within anonymousBody_within namedBody_within))

theorem projection_within : projection.Within :=
  bind_within blanks_within fun _ => context_within _ (orElse_within newExpression_within
    (bind_within (padded_within memberPath_within) fun _ => pure_within _))

/-! ### Traces of labelled and committed steps -/

section Traces

variable {α : Type} {step first second : Step α} {input : List Char}

/-- A labelled step that gives up has the label at its input as the last entry. -/
theorem context_trace? (label : String) :
    (context label step input).trace? = (step input).trace?.map (· ++ [(input, .context label)]) := by
  simp only [context]
  cases step input <;> rfl

/-- Committing keeps the trace. -/
theorem cut_trace? : (cut step input).trace? = (step input).trace? := by
  simp only [cut]
  cases step input <;> rfl

/-- A choice whose first branch does not miss answers as that branch. -/
theorem orElse_of_not_missed (kept : (first input).missed = false) : orElse first second input = first input := by
  simp only [orElse]
  cases read : first input with
  | miss trace =>
    rw [read] at kept
    cases kept
  | ok value rest => rfl
  | fail trace => rfl

end Traces

/-! ### Failed parses -/

/-- After its leading blanks, a projection is a construction or else a path, under its label. -/
theorem projection_apply (input : List Char) :
    projection input = context "Expected a member path or a `new` expression" (orElse newExpression
      (do let path ← padded memberPath; pure (.path path))) (input.dropWhile Text.isAsciiSpace) := rfl

/-- A projection that gives up ends its trace with its label, and with the construction's label
just inside it after `new`. -/
theorem projection_trace? {input : List Char} {trace : Trace} (gaveUp : (projection input).trace? = some trace) :
    ∃ inner, trace = inner ++ [(input.dropWhile Text.isAsciiSpace,
        .context "Expected a member path or a `new` expression")] ∧
      ∀ after, input.dropWhile Text.isAsciiSpace = "new".toList ++ after → EndsWord after →
        ∃ deeper, inner = deeper ++ [(after.dropWhile Text.isAsciiSpace,
          .context "Expected `\x7b` or a type name after `new`")] := by
  rw [projection_apply, context_trace?] at gaveUp
  obtain ⟨inner, innerGaveUp, rfl⟩ := Option.map_eq_some_iff.mp gaveUp
  refine ⟨inner, rfl, ?_⟩
  intro after spelled ends
  have start : Unblank (input.dropWhile Text.isAsciiSpace) := unblank_dropWhile input
  have keyword : newKeyword (input.dropWhile Text.isAsciiSpace) = .ok () after :=
    newKeyword_eq_ok.mpr ⟨spelled, ends⟩
  -- past the keyword the choice never tries a path, and the construction's trace is labelled
  rw [orElse_of_not_missed (newExpression_committed keyword start), newExpression,
    bind_of_ok (padded_of_ok start keyword), cut_trace?, context_trace?] at innerGaveUp
  obtain ⟨deeper, -, rfl⟩ := Option.map_eq_some_iff.mp innerGaveUp
  exact ⟨deeper, rfl⟩

/-- A parse fails exactly with text left over after a whole projection, reported alone, or with
the trace of the projection giving up. -/
theorem parse_eq_error {text : String} {trace : Trace} : parse text = .error trace ↔
    (∃ term rest, projection text.toList = .ok term rest ∧ rest.all Text.isBlank = false ∧
      trace = [(rest, .context "Unexpected tokens after projection")]) ∨
    (projection text.toList).trace? = some trace := by
  unfold parse
  cases projection text.toList with
  | ok term rest =>
    dsimp only
    by_cases blank : rest.all Text.isBlank
    · rw [if_pos blank]
      constructor
      · intro succeeded
        cases succeeded
      · rintro (⟨_, _, read, leftOver, -⟩ | gaveUp)
        · cases read
          rw [blank] at leftOver
          cases leftOver
        · cases gaveUp
    · rw [if_neg blank]
      constructor
      · intro failed
        cases failed
        exact .inl ⟨term, rest, rfl, by simpa using blank, rfl⟩
      · rintro (⟨_, _, read, -, rfl⟩ | gaveUp)
        · cases read
          rfl
        · cases gaveUp
  | miss found => simp [Reply.trace?]
  | fail found => simp [Reply.trace?]

/-- The two forms the trace of a failed parse takes. -/
inductive FailureForm (text : String) : Trace → Prop where
  /-- A whole projection was read and text that is not all blank is left over: that text alone
  is reported. -/
  | leftOver (term : Term) (rest : List Char) :
      projection text.toList = .ok term rest → rest.all Text.isBlank = false →
      FailureForm text [(rest, .context "Unexpected tokens after projection")]
  /-- The projection gave up, with the construction's label inside after `new`. -/
  | gaveUp (inner : Trace) :
      (∀ after, text.toList.dropWhile Text.isAsciiSpace = "new".toList ++ after → EndsWord after →
        ∃ deeper, inner = deeper ++ [(after.dropWhile Text.isAsciiSpace,
          .context "Expected `\x7b` or a type name after `new`")]) →
      FailureForm text (inner ++ [(text.toList.dropWhile Text.isAsciiSpace,
        .context "Expected a member path or a `new` expression")])

/-- The trace of a failed parse of a text. A reply has no third way to stop, so a parse fails
only with a trace. -/
structure FailureTrace (text : String) (trace : Trace) : Prop where
  nonempty : trace ≠ []
  suffixes : ∀ entry ∈ trace, entry.1 <:+ text.toList
  form : FailureForm text trace

/-- Every failed parse has a trace of the documented shape. -/
theorem parse_error_structure {text : String} {trace : Trace} (failed : parse text = .error trace) :
    FailureTrace text trace := by
  have inside := projection_within text.toList
  rcases parse_eq_error.mp failed with ⟨term, rest, read, leftOver, rfl⟩ | gaveUp
  · rw [read] at inside
    exact ⟨by simp, List.forall_mem_singleton.mpr inside, .leftOver term rest read leftOver⟩
  · obtain ⟨inner, shape, afterKeyword⟩ := projection_trace? gaveUp
    refine ⟨by simp [shape], Reply.within_of_trace? inside gaveUp, ?_⟩
    rw [shape]
    exact .gaveUp inner afterKeyword

/-- A construction with a type name and nothing after it: the bodies report the end of the
text, inside the labels of the construction and of the projection. -/
theorem parse_error_structure_bare_type :
    parse "new Wrapper" = .error [([], .context "Expected constructor arguments or member bindings"),
        ("Wrapper".toList, .context "Expected `\x7b` or a type name after `new`"),
        ("new Wrapper".toList, .context "Expected a member path or a `new` expression")] ∧
      FailureTrace "new Wrapper" [([], .context "Expected constructor arguments or member bindings"),
        ("Wrapper".toList, .context "Expected `\x7b` or a type name after `new`"),
        ("new Wrapper".toList, .context "Expected a member path or a `new` expression")] :=
  have failed : parse "new Wrapper" = .error [([], .context "Expected constructor arguments or member bindings"),
      ("Wrapper".toList, .context "Expected `\x7b` or a type name after `new`"),
      ("new Wrapper".toList, .context "Expected a member path or a `new` expression")] := by
    with_unfolding_all rfl
  ⟨failed, parse_error_structure failed⟩

end FlatProjection.Projection
