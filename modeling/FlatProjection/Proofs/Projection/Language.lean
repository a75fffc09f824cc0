import FlatProjection.Proofs.Projection.Grammar
/-
The language of projection text.
-/

namespace FlatProjection.Projection

open Step

/-! ### The keyword before a body -/

section Keyword

theorem keyword_not_mem_commaList {lists : List (List Token)} (free : ∀ tokens ∈ lists, .keyword ∉ tokens) :
    Token.keyword ∉ commaList lists := by
  cases lists with
  | nil => simp [commaList]
  | cons first more =>
    simp only [commaList, List.mem_append, List.mem_flatMap, List.mem_cons, reduceCtorEq, false_or,
      not_or, not_exists, not_and]
    exact ⟨free first (by simp), fun tokens listed => free tokens (by simp [listed])⟩

/-- `new` stands only before a body, never inside one. -/
theorem keyword_not_mem_bodyTokens (term : Term) (parens : Bool) : Token.keyword ∉ term.bodyTokens parens := by
  have fields : ∀ fields : List Field, Token.keyword ∉ commaList (fields.map Field.tokens) := by
    intro fields
    refine keyword_not_mem_commaList fun tokens listed => ?_
    obtain ⟨⟨name, path⟩, -, rfl⟩ := List.mem_map.mp listed
    cases name <;> simp [Field.tokens]
  have args : ∀ args : List MemberPath, Token.keyword ∉ argumentTokens args := by
    intro args
    have inner : Token.keyword ∉ commaList (args.map fun arg => [Token.word arg.chars]) :=
      keyword_not_mem_commaList (by simp)
    simpa [argumentTokens] using inner
  have bindings : ∀ bindings : List Binding, Token.keyword ∉ bindingTokens bindings := by
    intro bindings
    have inner : Token.keyword ∉ commaList (bindings.map Binding.tokens) :=
      keyword_not_mem_commaList (by simp [Binding.tokens])
    simpa [bindingTokens] using inner
  cases term with
  | path single => simp [Term.bodyTokens]
  | anonymous entries => simpa [Term.bodyTokens] using fields entries
  | construct typeName arguments => simpa [Term.bodyTokens] using args arguments
  | memberInit typeName ctorArgs entries =>
    simp only [Term.bodyTokens, List.mem_cons, reduceCtorEq, false_or, List.mem_append, not_or]
    refine ⟨?_, bindings entries⟩
    split
    · exact args ctorArgs
    · simp

theorem tokens_of_construction {term : Term} (construction : ∀ path, term ≠ .path path) (parens : Bool) :
    term.tokens parens = .keyword :: term.bodyTokens parens := by
  cases term with
  | path single => exact absurd rfl (construction single)
  | anonymous => rfl
  | construct => rfl
  | memberInit => rfl

/-- After `new` a gap may be empty only before a symbol. -/
theorem spaced_keyword {gap : List Char} {body : List (Token × List Char)}
    (free : Token.keyword ∉ body.map Prod.fst) :
    spaced ((.keyword, gap) :: body) =
      (gap.all Text.isAsciiSpace && !(gap.isEmpty && body.head?.any (·.1.isWord)) && blankGaps body) := by
  simp [spaced, Token.gapNeeded, spaced_eq_blankGaps free]

theorem not_endsWord_of_isIdentifier {name : String} (valid : isIdentifier name = true) (more : List Char) :
    ¬ EndsWord (name.toList ++ more) := by
  obtain ⟨c, tail, spelled, start, -⟩ := isIdentifier_iff.mp valid
  intro ends
  have stop := ends c (by simp [spelled])
  rw [isIdentifierChar_of_isIdentifierStart start] at stop
  cases stop

/-- A body starts with a word exactly when the text cannot end the keyword there. -/
theorem endsWord_iff_not_word {term : Term} {parens : Bool} {written : List (Token × List Char)}
    (construction : ∀ path, term ≠ .path path) (valid : term.wellFormed = true)
    (listed : written.map Prod.fst = term.bodyTokens parens) (rest : List Char) :
    EndsWord (writeTokens written ++ rest) ↔ written.head?.any (·.1.isWord) = false := by
  cases term with
  | path single => exact absurd rfl (construction single)
  | anonymous fields =>
    obtain ⟨gap, more, rfl, -⟩ := written_cons listed
    simp only [writeTokens_cons, Token.text, List.head?_cons, Option.any_some, Token.isWord, iff_true]
    rintro c ⟨⟩
    decide
  | construct typeName args =>
    simp only [Term.wellFormed, Bool.and_eq_true] at valid
    obtain ⟨gap, more, rfl, -⟩ := written_cons listed
    simp only [writeTokens_cons, Token.text, List.append_assoc, List.head?_cons, Option.any_some,
      Token.isWord, Bool.true_eq_false, iff_false]
    exact not_endsWord_of_isIdentifier valid.1 _
  | memberInit typeName ctorArgs bindings =>
    simp only [Term.wellFormed, Bool.and_eq_true] at valid
    obtain ⟨gap, more, rfl, -⟩ := written_cons listed
    simp only [writeTokens_cons, Token.text, List.append_assoc, List.head?_cons, Option.any_some,
      Token.isWord, Bool.true_eq_false, iff_false]
    exact not_endsWord_of_isIdentifier valid.1.1 _

end Keyword

/-! ### Constructions -/

section Constructions

variable {term : Term} {parens : Bool} {written : List (Token × List Char)} {input rest : List Char}

theorem anonymousBody_missed {name : String} (valid : isIdentifier name = true) (more : List Char) :
    (anonymousBody (name.toList ++ more)).missed = true := by
  obtain ⟨c, tail, spelled, start, -⟩ := isIdentifier_iff.mp valid
  apply bind_missed
  refine padded_char_missed (unblank_of_isIdentifier valid more) fun d first same => ?_
  simp only [spelled, List.cons_append, List.head?_cons, Option.mem_def, Option.some.injEq] at first
  subst first same
  simp [isIdentifierStart, Text.isAlphabetic] at start

/-- The body after `new`: an anonymous projection, or else a named construction. -/
theorem body_write (construction : ∀ path, term ≠ .path path) (valid : term.wellFormed = true)
    (listed : written.map Prod.fst = term.bodyTokens parens) (blank : blankGaps written = true)
    (closes : Closes rest) : Unblank (writeTokens written ++ rest) ∧
      orElse anonymousBody namedBody (writeTokens written ++ rest) = .ok term rest := by
  cases term with
  | path single => exact absurd rfl (construction single)
  | anonymous fields =>
    obtain ⟨start, read⟩ := anonymousBody_write valid listed blank closes
    exact ⟨start, orElse_eq_ok.mpr (.inl read)⟩
  | construct typeName args =>
    obtain ⟨start, read⟩ := construct_write valid listed blank closes
    obtain ⟨gap, more, rfl, -⟩ := written_cons listed
    simp only [Term.wellFormed, Bool.and_eq_true] at valid
    refine ⟨start, orElse_eq_ok.mpr (.inr ⟨?_, read⟩)⟩
    simpa [List.append_assoc, Token.text] using anonymousBody_missed valid.1 (gap ++ (writeTokens more ++ rest))
  | memberInit typeName ctorArgs bindings =>
    obtain ⟨start, read⟩ := memberInit_write valid listed blank closes
    obtain ⟨gap, more, rfl, -⟩ := written_cons listed
    simp only [Term.wellFormed, Bool.and_eq_true] at valid
    refine ⟨start, orElse_eq_ok.mpr (.inr ⟨?_, read⟩)⟩
    simpa [List.append_assoc, Token.text] using
      anonymousBody_missed valid.1.1 (gap ++ (writeTokens more ++ rest))

theorem body_read (read : orElse anonymousBody namedBody input = .ok term rest) (start : Unblank input) :
    (∀ path, term ≠ .path path) ∧ term.wellFormed = true ∧ ∃ parens written,
      written.map Prod.fst = term.bodyTokens parens ∧ blankGaps written = true ∧
      input = writeTokens written ++ rest ∧ Unblank rest := by
  rcases orElse_eq_ok.mp read with anonymous | ⟨-, named⟩
  · obtain ⟨construction, valid, written⟩ := anonymousBody_read anonymous start
    exact ⟨construction, valid, true, written⟩
  · exact namedBody_read named start

theorem newExpression_write (construction : ∀ path, term ≠ .path path) (valid : term.wellFormed = true)
    (listed : written.map Prod.fst = term.tokens parens) (spacedWritten : spaced written = true)
    (closes : Closes rest) : newExpression (writeTokens written ++ rest) = .ok term rest := by
  rw [tokens_of_construction construction] at listed
  obtain ⟨gap, body, rfl, listedBody⟩ := written_cons listed
  have free : Token.keyword ∉ body.map Prod.fst := listedBody ▸ keyword_not_mem_bodyTokens term parens
  rw [spaced_keyword free] at spacedWritten
  simp only [Bool.and_eq_true, Bool.not_eq_true', Bool.and_eq_false_iff] at spacedWritten
  obtain ⟨⟨blank, apart⟩, blankBody⟩ := spacedWritten
  obtain ⟨bodyStart, bodyRead⟩ := body_write construction valid listedBody blankBody closes
  have ends : EndsWord (gap ++ (writeTokens body ++ rest)) := by
    cases gap with
    | nil =>
      simp only [List.isEmpty_nil, Bool.true_eq_false, false_or] at apart
      exact (endsWord_iff_not_word construction valid listedBody rest).mpr apart
    | cons space more =>
      rintro c ⟨⟩
      simp only [List.all_cons, Bool.and_eq_true] at blank
      cases ident : isIdentifierChar space
      · rfl
      · rw [isAsciiSpace_eq_false_of_isIdentifierChar ident] at blank
        cases blank.1
  have keywordRead : padded newKeyword ("new".toList ++ (gap ++ (writeTokens body ++ rest))) =
      .ok () (writeTokens body ++ rest) := by
    rw [padded_of_ok (fun c first => by cases first; decide) (newKeyword_eq_ok.mpr ⟨rfl, ends⟩),
      dropWhile_gap blank bodyStart]
  simp only [writeTokens_cons, Token.text, List.append_assoc]
  rw [newExpression, bind_of_ok keywordRead]
  simpa using bodyRead

theorem newExpression_read (read : newExpression input = .ok term rest) (start : Unblank input) :
    (∀ path, term ≠ .path path) ∧ term.wellFormed = true ∧ ∃ parens written,
      written.map Prod.fst = term.tokens parens ∧ spaced written = true ∧
      input = writeTokens written ++ rest ∧ Unblank rest := by
  obtain ⟨_, afterKeyword, keywordRead, bodyRead⟩ := bind_eq_ok.mp read
  obtain ⟨gap, keywordStep, blank, startBody⟩ := padded_read keywordRead start
  obtain ⟨rfl, ends⟩ := newKeyword_eq_ok.mp keywordStep
  simp only [cut_eq_ok, context_eq_ok] at bodyRead
  obtain ⟨construction, valid, parens, body, listedBody, blankBody, rfl, after⟩ := body_read bodyRead startBody
  refine ⟨construction, valid, parens, (.keyword, gap) :: body, by simp [tokens_of_construction construction,
    listedBody], ?_, by simp [Token.text], after⟩
  rw [spaced_keyword (listedBody ▸ keyword_not_mem_bodyTokens term parens)]
  cases gap with
  | nil =>
    have apart := (endsWord_iff_not_word construction valid listedBody rest).mp ends
    simp [apart, blankBody]
  | cons space more => simp [blank, blankBody]

/-- On a path whose root is not `new`, the construction misses and the path is tried. -/
theorem newExpression_missed_of_path {path : MemberPath} {gap : List Char} (valid : path.valid = true)
    (root : path.root ≠ "new") (blank : gap.all Text.isAsciiSpace = true) (delimited : Delimited rest) :
    (newExpression (path.chars ++ (gap ++ rest))).missed = true := by
  apply bind_missed
  rw [padded_missed (unblank_of_valid valid _)]
  refine newKeyword_missed fun after keywordRead => root ?_
  have rootRead := identifier_root valid (endsPath_gap blank delimited)
  rw [newKeyword_eq_ok_iff_identifier.mp keywordRead] at rootRead
  simp only [Reply.ok.injEq] at rootRead
  exact rootRead.1.symm

/-- Once `new` is read, the construction is committed and never misses. -/
theorem newExpression_committed {after : List Char} (keywordRead : newKeyword input = .ok () after)
    (start : Unblank input) : (newExpression input).missed = false := by
  rw [newExpression, bind_of_ok (padded_of_ok start keywordRead)]
  exact cut_missed

end Constructions

/-! ### Whole projections -/

section Projections

variable {term : Term} {parens : Bool} {written : List (Token × List Char)} {lead rest : List Char}

theorem projection_write (valid : term.wellFormed = true) (listed : written.map Prod.fst = term.tokens parens)
    (spacedWritten : spaced written = true) (leadBlank : lead.all Text.isAsciiSpace = true)
    (closes : Closes rest) : projection (lead ++ (writeTokens written ++ rest)) = .ok term rest := by
  by_cases isPath : ∃ path, term = .path path
  · obtain ⟨path, rfl⟩ := isPath
    simp only [Term.wellFormed, Bool.and_eq_true, bne_iff_ne, ne_eq] at valid
    obtain ⟨gap, rfl⟩ := written_single listed
    simp only [spaced, List.head?_nil, Option.any_none, Bool.and_false, Bool.not_false, Bool.and_true] at spacedWritten
    simp only [writeTokens_cons, writeTokens_nil, Token.text, List.append_nil, List.append_assoc]
    have blanksRead : blanks (lead ++ (path.chars ++ (gap ++ rest))) = .ok () (path.chars ++ (gap ++ rest)) := by
      rw [blanks, dropWhile_gap leadBlank (unblank_of_valid valid.1 _)]
    rw [projection, bind_of_ok blanksRead, context_eq_ok]
    refine orElse_eq_ok.mpr (.inr ⟨newExpression_missed_of_path valid.1 valid.2 spacedWritten
      closes.follows.delimited, ?_⟩)
    rw [bind_of_ok (memberPath_write valid.1 spacedWritten closes.follows.delimited)]
    rfl
  · have construction : ∀ path, term ≠ .path path := fun path same => isPath ⟨path, same⟩
    have read := newExpression_write construction valid listed spacedWritten closes
    have start : Unblank (writeTokens written ++ rest) := by
      rw [tokens_of_construction construction] at listed
      obtain ⟨gap, body, rfl, -⟩ := written_cons listed
      rintro c ⟨⟩
      decide
    have blanksRead : blanks (lead ++ (writeTokens written ++ rest)) = .ok () (writeTokens written ++ rest) := by
      rw [blanks, dropWhile_gap leadBlank start]
    rw [projection, bind_of_ok blanksRead, context_eq_ok]
    exact orElse_eq_ok.mpr (.inl read)

theorem projection_read {input : List Char} (read : projection input = .ok term rest) :
    term.wellFormed = true ∧ ∃ parens lead written, lead.all Text.isAsciiSpace = true ∧
      written.map Prod.fst = term.tokens parens ∧ spaced written = true ∧
      input = lead ++ (writeTokens written ++ rest) ∧ Unblank rest := by
  obtain ⟨_, mid, blanksRead, termRead⟩ := bind_eq_ok.mp read
  simp only [blanks, Reply.ok.injEq, true_and] at blanksRead
  subst blanksRead
  have split : input = input.takeWhile Text.isAsciiSpace ++ input.dropWhile Text.isAsciiSpace :=
    List.takeWhile_append_dropWhile.symm
  simp only [context_eq_ok] at termRead
  rcases orElse_eq_ok.mp termRead with construction | ⟨missed, pathRead⟩
  · obtain ⟨-, valid, parens, written, listed, spacedWritten, same, after⟩ :=
      newExpression_read construction (unblank_dropWhile input)
    exact ⟨valid, parens, input.takeWhile Text.isAsciiSpace, written, List.all_takeWhile, listed,
      spacedWritten, by rw [← same]; exact split, after⟩
  · obtain ⟨path, afterPath, readPath, built⟩ := bind_eq_ok.mp pathRead
    simp only [pure_apply, Reply.ok.injEq] at built
    obtain ⟨rfl, rfl⟩ := built
    obtain ⟨valid, gap, same, blank, after⟩ := memberPath_read readPath (unblank_dropWhile input)
    have root : path.root ≠ "new" := by
      intro isNew
      obtain ⟨gap', stepped, -, -⟩ := padded_read readPath (unblank_dropWhile input)
      obtain ⟨-, ends, shape⟩ := memberPath_eq_ok.mp stepped
      have rootRead := identifier_root valid ends
      rw [isNew, ← shape, ← newKeyword_eq_ok_iff_identifier] at rootRead
      rw [newExpression_committed rootRead (unblank_dropWhile input)] at missed
      cases missed
    have written : writeTokens [(.word path.chars, gap)] ++ afterPath = input.dropWhile Text.isAsciiSpace := by
      rw [same]
      simp [Token.text]
    refine ⟨by simp [Term.wellFormed, valid, root], true, input.takeWhile Text.isAsciiSpace,
      [(.word path.chars, gap)], List.all_takeWhile, rfl, by simpa [spaced] using blank, ?_, after⟩
    rw [written]
    exact split

end Projections

/-! ### Parsing a text -/

theorem parse_eq_ok {text : String} {term : Term} :
    parse text = .ok term ↔ ∃ rest, projection text.toList = .ok term rest ∧ rest.all Text.isBlank = true := by
  unfold parse
  constructor
  · intro parsed
    split at parsed
    · rename_i read rest reading
      split at parsed
      · cases parsed
        exact ⟨rest, reading, ‹_›⟩
      · cases parsed
    · cases parsed
    · cases parsed
  · rintro ⟨rest, reading, blank⟩
    rw [reading]
    exact if_pos blank

/-- The gaps of a spaced form are ASCII blanks. -/
theorem gap_blank_of_spaced {written : List (Token × List Char)} (spacedWritten : spaced written = true) :
    ∀ entry ∈ written, entry.2.all Text.isAsciiSpace = true := by
  induction written with
  | nil => simp
  | cons entry more ih =>
    obtain ⟨token, gap⟩ := entry
    simp only [spaced, Bool.and_eq_true] at spacedWritten
    intro other listed
    rcases List.mem_cons.mp listed with rfl | later
    · exact spacedWritten.1.1
    · exact ih spacedWritten.2 other later

/-- Projection text parses to a projection exactly when the projection is well formed and the
text is a written form of it. -/
theorem parse_eq_ok_iff (s : String) (a : Term) :
    parse s = .ok a ↔ a.wellFormed = true ∧ ∃ (parens : Bool) (lead : List Char)
      (written : List (Token × List Char)) (trail : List Char),
      lead.all Text.isAsciiSpace = true ∧ written.map Prod.fst = a.tokens parens ∧
        spaced written = true ∧ trail.all Text.isBlank = true ∧
        s.toList = lead ++ writeTokens written ++ trail := by
  rw [parse_eq_ok]
  constructor
  · rintro ⟨rest, read, trailBlank⟩
    obtain ⟨valid, parens, lead, written, leadBlank, listed, spacedWritten, same, -⟩ := projection_read read
    exact ⟨valid, parens, lead, written, rest, leadBlank, listed, spacedWritten, trailBlank,
      by rw [same, List.append_assoc]⟩
  · rintro ⟨valid, parens, lead, written, trail, leadBlank, listed, spacedWritten, trailBlank, same⟩
    have nonempty : written ≠ [] := by
      rintro rfl
      cases a <;> simp [Term.tokens] at listed
    obtain ⟨front, ⟨token, gap⟩, rfl⟩ : ∃ front last, written = front ++ [last] :=
      ⟨_, _, (List.dropLast_concat_getLast nonempty).symm⟩
    have extraBlank : (trail.takeWhile Text.isAsciiSpace).all Text.isAsciiSpace = true := List.all_takeWhile
    have tailBlank : (trail.dropWhile Text.isAsciiSpace).all Text.isBlank = true :=
      List.all_eq_true.mpr fun c listed =>
        List.all_eq_true.mp trailBlank c ((List.dropWhile_suffix Text.isAsciiSpace).subset listed)
    have closes : Closes (trail.dropWhile Text.isAsciiSpace) := by
      intro c first
      have blank := List.all_eq_true.mp tailBlank c (List.mem_of_mem_head? first)
      simp [closer, blank, head_dropWhile Text.isAsciiSpace trail c first]
    have text : lead ++ writeTokens (front ++ [(token, gap)]) ++ trail =
        lead ++ (writeTokens (front ++ [(token, gap ++ trail.takeWhile Text.isAsciiSpace)]) ++
          trail.dropWhile Text.isAsciiSpace) := by
      simp only [writeTokens_append, writeTokens_cons, writeTokens_nil, List.append_nil, List.append_assoc]
      rw [List.takeWhile_append_dropWhile]
    refine ⟨trail.dropWhile Text.isAsciiSpace, ?_, tailBlank⟩
    rw [same, text]
    exact projection_write valid (by simpa using listed) (spaced_widen_last extraBlank spacedWritten)
      leadBlank closes

/-- A member initialisation without constructor arguments is also read from text that keeps the
empty `()`, which no written form of its tokens without `()` produces. -/
theorem parse_keeps_empty_arguments :
    parse "new T(){M=a}" = .ok (.memberInit "T" [] [⟨"M", ⟨"a", []⟩⟩]) ∧
      ∀ (lead : List Char) (written : List (Token × List Char)) (trail : List Char),
        lead.all Text.isAsciiSpace = true →
        written.map Prod.fst = (Term.memberInit "T" [] [⟨"M", ⟨"a", []⟩⟩]).tokens false →
        spaced written = true → trail.all Text.isBlank = true →
        "new T(){M=a}".toList ≠ lead ++ writeTokens written ++ trail := by
  refine ⟨by with_unfolding_all rfl, ?_⟩
  intro lead written trail leadBlank listed spacedWritten trailBlank same
  -- the text has a `(`, which is neither a blank nor in any of the tokens
  have paren : '(' ∈ lead ++ writeTokens written ++ trail := same ▸ (by decide : '(' ∈ "new T(){M=a}".toList)
  have noParen : ∀ token ∈ (Term.memberInit "T" [] [⟨"M", ⟨"a", []⟩⟩]).tokens false, '(' ∉ token.text := by
    decide
  simp only [List.mem_append] at paren
  rcases paren with (inLead | inWritten) | inTrail
  · have blank := List.all_eq_true.mp leadBlank _ inLead
    simp [Text.isAsciiSpace] at blank
  · obtain ⟨⟨token, gap⟩, listedEntry, inText | inGap⟩ := mem_writeTokens inWritten
    · exact noParen token (listed ▸ List.mem_map.mpr ⟨_, listedEntry, rfl⟩) inText
    · have blank := List.all_eq_true.mp (gap_blank_of_spaced spacedWritten _ listedEntry) _ inGap
      simp [Text.isAsciiSpace] at blank
  · have blank := List.all_eq_true.mp trailBlank _ inTrail
    simp [Text.isBlank] at blank

end FlatProjection.Projection
