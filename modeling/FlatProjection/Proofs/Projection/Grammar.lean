import FlatProjection.Proofs.Projection.Tokens
/-
Every step of the projection parser reads exactly the written forms of its part of the grammar.
-/

namespace FlatProjection.Projection

open Step

/-! ### What may follow a part -/

/-- A character that cannot continue a word or a path and is not skipped as a blank. -/
def delimiter (c : Char) : Bool := !Text.isAsciiSpace c && !isIdentifierChar c && c != '.'

/-- A character that may close a list or a whole projection: `)`, `}` or a blank beyond
ASCII. -/
def closer (c : Char) : Bool :=
  c == ')' || c == '\x7d' || (Text.isBlank c && !Text.isAsciiSpace c)

/-- Text that starts with a delimiter, or is empty. -/
def Delimited (text : List Char) : Prop := ∀ c ∈ text.head?, delimiter c = true

/-- Text after a whole list or projection. -/
def Closes (text : List Char) : Prop := ∀ c ∈ text.head?, closer c = true

/-- Text after an item of a list: a comma, or what closes the list. -/
def Follows (text : List Char) : Prop := ∀ c ∈ text.head?, c = ',' ∨ closer c = true

section Following

variable {c : Char} {text gap : List Char}

theorem delimiter_of_closer (closing : closer c = true) : delimiter c = true := by
  simp only [closer, Bool.or_eq_true, beq_iff_eq, Bool.and_eq_true, Bool.not_eq_true'] at closing
  rcases closing with (rfl | rfl) | ⟨blank, wide⟩
  · decide
  · decide
  · have notDot : c ≠ '.' := by
      rintro rfl
      simp [Text.isBlank] at blank
    simp [delimiter, wide, isIdentifierChar_eq_false_of_isBlank blank, notDot]

theorem delimited_of_head (head : delimiter c = true) (more : List Char) : Delimited (c :: more) := by
  rintro d ⟨⟩
  exact head

theorem Closes.follows (closes : Closes text) : Follows text :=
  fun c first => .inr (closes c first)

theorem Follows.delimited (follows : Follows text) : Delimited text := by
  intro c first
  rcases follows c first with rfl | closing
  · decide
  · exact delimiter_of_closer closing

theorem Delimited.unblank (delimited : Delimited text) : Unblank text := by
  intro c first
  have head := delimited c first
  simp only [delimiter, Bool.and_eq_true, Bool.not_eq_true'] at head
  exact head.1.1

/-- A gap of blanks, then a delimiter, ends a path. -/
theorem endsPath_gap (blank : gap.all Text.isAsciiSpace = true) (delimited : Delimited text) :
    EndsPath (gap ++ text) := by
  cases gap with
  | nil =>
    refine ⟨fun c first => ?_, fun more shape d _ => ?_⟩
    · have head := delimited c first
      simp only [delimiter, Bool.and_eq_true, Bool.not_eq_true'] at head
      exact head.1.2
    · rw [List.nil_append] at shape
      have head := delimited '.' (by simp [shape])
      simp [delimiter] at head
  | cons space more =>
    simp only [List.all_cons, Bool.and_eq_true] at blank
    refine ⟨fun c first => ?_, fun more shape => ?_⟩
    · cases first
      cases ident : isIdentifierChar space
      · rfl
      · rw [isAsciiSpace_eq_false_of_isIdentifierChar ident] at blank
        cases blank.1
    · simp only [List.cons_append, List.cons.injEq] at shape
      rw [shape.1] at blank
      cases blank.1

/-- An identifier starts with a character that is not a blank. -/
theorem unblank_of_isIdentifier {name : String} (valid : isIdentifier name = true) (more : List Char) :
    Unblank (name.toList ++ more) := by
  obtain ⟨c, tail, spelled, start, -⟩ := isIdentifier_iff.mp valid
  rw [spelled]
  rintro d ⟨⟩
  exact isAsciiSpace_eq_false_of_isIdentifierChar (isIdentifierChar_of_isIdentifierStart start)

end Following

/-! ### Reading and writing -/

section Laws

variable {α : Type}

/-- A written form of each valid value starts unblank, and `step` reads it whole when the text
after it satisfies `After`. -/
def Writes (step : Step α) (valid : α → Bool) (tokens : α → List Token)
    (After : List Char → Prop) : Prop :=
  ∀ value written rest, valid value = true → written.map Prod.fst = tokens value →
    blankGaps written = true → After rest →
      Unblank (writeTokens written ++ rest) ∧ step (writeTokens written ++ rest) = .ok value rest

/-- What `step` reads from unblank text is a written form of a valid value, and the text after
it is unblank. -/
def Reads (step : Step α) (valid : α → Bool) (tokens : α → List Token) : Prop :=
  ∀ input value rest, step input = .ok value rest → Unblank input →
    valid value = true ∧ ∃ written, written.map Prod.fst = tokens value ∧ blankGaps written = true ∧
      input = writeTokens written ++ rest ∧ Unblank rest

variable {step : Step α} {valid : α → Bool} {tokens : α → List Token}

/-- A padded step leaves a gap of blanks behind what it read. -/
theorem padded_read {input rest : List Char} {value : α} (read : padded step input = .ok value rest)
    (start : Unblank input) : ∃ gap, step input = .ok value (gap ++ rest) ∧
      gap.all Text.isAsciiSpace = true ∧ Unblank rest := by
  obtain ⟨mid, stepped, rfl⟩ := (padded_eq_ok start).mp read
  refine ⟨mid.takeWhile Text.isAsciiSpace, ?_, List.all_takeWhile, unblank_dropWhile mid⟩
  rw [List.takeWhile_append_dropWhile]
  exact stepped

/-- A written form of one token. -/
theorem written_single {written : List (Token × List Char)} {token : Token}
    (listed : written.map Prod.fst = [token]) : ∃ gap, written = [(token, gap)] := by
  obtain ⟨gap, more, rfl, none⟩ := written_cons listed
  obtain rfl := List.map_eq_nil_iff.mp none
  exact ⟨gap, rfl⟩

end Laws

/-! ### Primitive steps -/

section Primitive

variable {input rest gap : List Char}

/-- A word and the blanks after it, before a delimiter. -/
theorem identifier_write {name : String} (valid : isIdentifier name = true)
    (blank : gap.all Text.isAsciiSpace = true) (delimited : Delimited rest) :
    padded identifier (name.toList ++ (gap ++ rest)) = .ok name rest := by
  have read : identifier (name.toList ++ (gap ++ rest)) = .ok name (gap ++ rest) :=
    identifier_eq_ok.mpr ⟨valid, (endsPath_gap blank delimited).1, rfl⟩
  rw [padded_of_ok (unblank_of_isIdentifier valid _) read, dropWhile_gap blank delimited.unblank]

theorem identifier_read {name : String} (read : padded identifier input = .ok name rest)
    (start : Unblank input) : isIdentifier name = true ∧ ∃ gap, input = name.toList ++ (gap ++ rest) ∧
      gap.all Text.isAsciiSpace = true ∧ Unblank rest := by
  obtain ⟨gap, stepped, blank, after⟩ := padded_read read start
  obtain ⟨valid, -, rfl⟩ := identifier_eq_ok.mp stepped
  exact ⟨valid, gap, rfl, blank, after⟩

theorem unblank_of_valid {path : MemberPath} (valid : path.valid = true) (more : List Char) :
    Unblank (path.chars ++ more) := by
  simp only [MemberPath.valid, Bool.and_eq_true] at valid
  rw [MemberPath.chars_eq, List.append_assoc]
  exact unblank_of_isIdentifier valid.1 _

theorem memberPath_write {path : MemberPath} (valid : path.valid = true)
    (blank : gap.all Text.isAsciiSpace = true) (delimited : Delimited rest) :
    padded memberPath (path.chars ++ (gap ++ rest)) = .ok path rest := by
  have read : memberPath (path.chars ++ (gap ++ rest)) = .ok path (gap ++ rest) :=
    memberPath_eq_ok.mpr ⟨valid, endsPath_gap blank delimited, rfl⟩
  rw [padded_of_ok (unblank_of_valid valid _) read, dropWhile_gap blank delimited.unblank]

theorem memberPath_read {path : MemberPath} (read : padded memberPath input = .ok path rest)
    (start : Unblank input) : path.valid = true ∧ ∃ gap, input = path.chars ++ (gap ++ rest) ∧
      gap.all Text.isAsciiSpace = true ∧ Unblank rest := by
  obtain ⟨gap, stepped, blank, after⟩ := padded_read read start
  obtain ⟨valid, -, rfl⟩ := memberPath_eq_ok.mp stepped
  exact ⟨valid, gap, rfl, blank, after⟩

/-- A symbol and the blanks after it. -/
theorem char_write {c : Char} (symbol : Text.isAsciiSpace c = false)
    (blank : gap.all Text.isAsciiSpace = true) (start : Unblank rest) :
    padded (char c) (c :: (gap ++ rest)) = .ok c rest := by
  have unblank : Unblank (c :: (gap ++ rest)) := by
    rintro d ⟨⟩
    exact symbol
  rw [padded_of_ok unblank char_cons_self, dropWhile_gap blank start]

theorem char_read {c d : Char} (read : padded (char c) input = .ok d rest) (start : Unblank input) :
    d = c ∧ ∃ gap, input = c :: (gap ++ rest) ∧ gap.all Text.isAsciiSpace = true ∧ Unblank rest := by
  obtain ⟨gap, stepped, blank, after⟩ := padded_read read start
  obtain ⟨rfl, rfl⟩ := char_eq_ok.mp stepped
  exact ⟨rfl, gap, rfl, blank, after⟩

theorem padded_char_missed {c : Char} (start : Unblank input) (other : ∀ d ∈ input.head?, d ≠ c) :
    (padded (char c) input).missed = true := by
  rw [padded_missed start]
  exact char_missed other

/-- A committed step reads what the step reads. -/
theorem context_cut_of_ok {α : Type} {step : Step α} {label : String} {value : α}
    (read : step input = .ok value rest) : context label (cut step) input = .ok value rest := by
  simpa using read

end Primitive

/-! ### Items of lists -/

theorem memberPath_writes :
    Writes (padded memberPath) MemberPath.valid (fun path => [.word path.chars]) Follows := by
  intro path written rest valid listed blank follows
  obtain ⟨gap, rfl⟩ := written_single listed
  simp only [blankGaps_cons, blankGaps_nil, Bool.and_true] at blank
  simp only [writeTokens_cons, writeTokens_nil, Token.text, List.append_nil, List.append_assoc]
  exact ⟨unblank_of_valid valid _, memberPath_write valid blank follows.delimited⟩

theorem memberPath_reads : Reads (padded memberPath) MemberPath.valid (fun path => [.word path.chars]) := by
  intro input path rest read start
  obtain ⟨valid, gap, rfl, blank, after⟩ := memberPath_read read start
  exact ⟨valid, [(.word path.chars, gap)], rfl, by simpa using blank, by simp [Token.text], after⟩

theorem memberBinding_writes : Writes memberBinding Binding.valid Binding.tokens Follows := by
  intro binding written rest valid listed blank follows
  simp only [Binding.valid, Bool.and_eq_true] at valid
  obtain ⟨memberGap, more, rfl, afterMember⟩ := written_cons listed
  obtain ⟨equalsGap, more, rfl, afterEquals⟩ := written_cons afterMember
  obtain ⟨pathGap, rfl⟩ := written_single afterEquals
  simp only [blankGaps_cons, blankGaps_nil, Bool.and_true, Bool.and_eq_true] at blank
  simp only [writeTokens_cons, writeTokens_nil, Token.text, List.append_nil, List.append_assoc,
    List.cons_append, List.nil_append]
  refine ⟨unblank_of_isIdentifier valid.1 _, ?_⟩
  rw [memberBinding,
    bind_of_ok (identifier_write valid.1 blank.1 (delimited_of_head (by decide) _)),
    bind_of_ok (context_cut_of_ok (char_write (by decide) blank.2.1 (unblank_of_valid valid.2 _))),
    bind_of_ok (context_cut_of_ok (memberPath_write valid.2 blank.2.2 follows.delimited))]
  rfl

theorem memberBinding_reads : Reads memberBinding Binding.valid Binding.tokens := by
  intro input binding rest read start
  obtain ⟨member, afterMember, readMember, read⟩ := bind_eq_ok.mp read
  obtain ⟨_, afterEquals, readEquals, read⟩ := bind_eq_ok.mp read
  obtain ⟨path, afterPath, readPath, read⟩ := bind_eq_ok.mp read
  simp only [pure_apply, Reply.ok.injEq] at read
  obtain ⟨rfl, rfl⟩ := read
  simp only [context_eq_ok, cut_eq_ok] at readEquals readPath
  obtain ⟨validMember, memberGap, rfl, memberBlank, startEquals⟩ := identifier_read readMember start
  obtain ⟨-, equalsGap, rfl, equalsBlank, startPath⟩ := char_read readEquals startEquals
  obtain ⟨validPath, pathGap, rfl, pathBlank, after⟩ := memberPath_read readPath startPath
  refine ⟨by simp [Binding.valid, validMember, validPath],
    [(.word member.toList, memberGap), (.symbol '=', equalsGap), (.word path.chars, pathGap)], rfl,
    by simp [memberBlank, equalsBlank, pathBlank], by simp [Token.text], after⟩

/-- After the root of a path comes a dot or what follows the path, never `=`. -/
theorem equals_not_after_root {members : List String} {gap rest : List Char}
    (blank : gap.all Text.isAsciiSpace = true) (follows : Follows rest) :
    ∀ c ∈ ((dottedMembers members ++ (gap ++ rest)).dropWhile Text.isAsciiSpace).head?, c ≠ '=' := by
  cases members with
  | nil =>
    rw [dottedMembers, List.flatMap_nil, List.nil_append, dropWhile_gap blank follows.delimited.unblank]
    intro c first
    rcases follows c first with rfl | closing
    · decide
    · rintro rfl
      simp [closer, Text.isBlank] at closing
  | cons member more =>
    have dot : Text.isAsciiSpace '.' = false := by decide
    intro c first
    simp [dottedMembers, dot] at first
    subst first
    decide

/-- Without `=` after its first identifier, a field is a bare path. -/
theorem projectionField_writes : Writes projectionField Field.valid Field.tokens Follows := by
  intro field written rest valid listed blank follows
  obtain ⟨name, path⟩ := field
  cases name with
  | some name =>
    simp only [Field.valid, Option.all_some, Bool.and_eq_true] at valid
    obtain ⟨nameGap, more, rfl, afterName⟩ := written_cons listed
    obtain ⟨equalsGap, more, rfl, afterEquals⟩ := written_cons afterName
    obtain ⟨pathGap, rfl⟩ := written_single afterEquals
    simp only [blankGaps_cons, blankGaps_nil, Bool.and_true, Bool.and_eq_true] at blank
    simp only [writeTokens_cons, writeTokens_nil, Token.text, List.append_nil, List.append_assoc,
      List.cons_append, List.nil_append]
    refine ⟨unblank_of_isIdentifier valid.1 _, ?_⟩
    rw [projectionField, bind_of_ok (optional_of_ok name _ ?named)]
    case named =>
      rw [bind_of_ok (identifier_write valid.1 blank.1 (delimited_of_head (by decide) _)),
        bind_of_ok (char_write (by decide) blank.2.1 (unblank_of_valid valid.2 _))]
      rfl
    dsimp only
    rw [bind_of_ok (context_cut_of_ok (memberPath_write valid.2 blank.2.2 follows.delimited))]
    rfl
  | none =>
    simp only [Field.valid, Option.all_none, Bool.true_and] at valid
    obtain ⟨pathGap, rfl⟩ := written_single listed
    simp only [blankGaps_cons, blankGaps_nil, Bool.and_true] at blank
    simp only [writeTokens_cons, writeTokens_nil, Token.text, List.append_nil, List.append_assoc]
    refine ⟨unblank_of_valid valid _, ?_⟩
    rw [projectionField, bind_of_ok (optional_of_missed ?unnamed)]
    case unnamed =>
      rw [bind_of_ok (padded_of_ok (unblank_of_valid valid _)
        (identifier_root valid (endsPath_gap blank follows.delimited)))]
      exact bind_missed (padded_char_missed (unblank_dropWhile _) (equals_not_after_root blank follows))
    dsimp only
    rw [bind_of_ok (memberPath_write valid blank follows.delimited)]
    rfl

theorem projectionField_reads : Reads projectionField Field.valid Field.tokens := by
  intro input field rest read start
  obtain ⟨found, afterName, readName, readBody⟩ := bind_eq_ok.mp read
  rcases optional_eq_ok.mp readName with ⟨named, readNamed, rfl⟩ | ⟨-, rfl, rfl⟩
  · obtain ⟨name, afterIdentifier, readIdentifier, readNamed⟩ := bind_eq_ok.mp readNamed
    obtain ⟨_, afterEquals, readEquals, readNamed⟩ := bind_eq_ok.mp readNamed
    simp only [pure_apply, Reply.ok.injEq] at readNamed
    obtain ⟨same, rfl⟩ := readNamed
    subst same
    obtain ⟨path, afterPath, readPath, readBody⟩ := bind_eq_ok.mp readBody
    simp only [pure_apply, Reply.ok.injEq] at readBody
    obtain ⟨rfl, rfl⟩ := readBody
    simp only [context_eq_ok, cut_eq_ok] at readPath
    obtain ⟨validName, nameGap, rfl, nameBlank, startEquals⟩ := identifier_read readIdentifier start
    obtain ⟨-, equalsGap, rfl, equalsBlank, startPath⟩ := char_read readEquals startEquals
    obtain ⟨validPath, pathGap, rfl, pathBlank, after⟩ := memberPath_read readPath startPath
    refine ⟨by simp [Field.valid, validName, validPath],
      [(.word name.toList, nameGap), (.symbol '=', equalsGap), (.word path.chars, pathGap)], rfl,
      by simp [nameBlank, equalsBlank, pathBlank], by simp [Token.text], after⟩
  · obtain ⟨path, afterPath, readPath, readBody⟩ := bind_eq_ok.mp readBody
    simp only [pure_apply, Reply.ok.injEq] at readBody
    obtain ⟨rfl, rfl⟩ := readBody
    obtain ⟨validPath, pathGap, rfl, pathBlank, after⟩ := memberPath_read readPath start
    exact ⟨by simp [Field.valid, validPath], [(.word path.chars, pathGap)], rfl, by simpa using pathBlank,
      by simp [Token.text], after⟩

/-! ### Comma lists -/

section Lists

variable {α : Type} {item : Step α} {valid : α → Bool} {tokens : α → List Token}

/-- The tokens of the items after the first, each after its comma. -/
def rounds (tokens : α → List Token) (values : List α) : List Token :=
  values.flatMap fun value => .symbol ',' :: tokens value

@[simp] theorem rounds_nil : rounds tokens [] = [] := rfl

@[simp] theorem rounds_cons (value : α) (values : List α) :
    rounds tokens (value :: values) = .symbol ',' :: (tokens value ++ rounds tokens values) := rfl

theorem commaList_map_cons (value : α) (values : List α) :
    commaList ((value :: values).map tokens) = tokens value ++ rounds tokens values := by
  simp [commaList, rounds, List.flatMap_map]

/-- After the items of a list comes a comma or what closes the list. -/
theorem follows_rounds {values : List α} {written : List (Token × List Char)} {rest : List Char}
    (listed : written.map Prod.fst = rounds tokens values) (closes : Closes rest) :
    Follows (writeTokens written ++ rest) := by
  cases values with
  | nil =>
    obtain rfl := List.map_eq_nil_iff.mp listed
    exact closes.follows
  | cons value more =>
    obtain ⟨gap, others, rfl, -⟩ := written_cons listed
    rintro c ⟨⟩
    exact .inl rfl

theorem separatedRest_writes (writes : Writes item valid tokens Follows) :
    ∀ (values acc : List α) (written : List (Token × List Char)) (rest : List Char),
      values.all valid = true → written.map Prod.fst = rounds tokens values → blankGaps written = true →
      Closes rest →
      separatedRest (padded (char ',')) item acc (writeTokens written ++ rest) = .ok (acc.reverse ++ values) rest
  | [], acc, written, rest, _, listed, _, closes => by
    obtain rfl := List.map_eq_nil_iff.mp listed
    have noComma : ∀ c ∈ rest.head?, c ≠ ',' := by
      intro c first
      have closing := closes c first
      rintro rfl
      simp [closer, Text.isBlank] at closing
    rw [writeTokens_nil, List.nil_append, List.append_nil,
      separatedRest_of_missed (padded_char_missed closes.follows.delimited.unblank noComma)]
  | value :: values, acc, written, rest, valid', listed, blank, closes => by
    simp only [List.all_cons, Bool.and_eq_true] at valid'
    rw [rounds_cons] at listed
    obtain ⟨gap, more, rfl, listedMore⟩ := written_cons listed
    obtain ⟨first, others, rfl, listedFirst, listedOthers⟩ := List.map_eq_append_iff.mp listedMore
    simp only [blankGaps_cons, blankGaps_append, Bool.and_eq_true] at blank
    obtain ⟨start, read⟩ := writes value first (writeTokens others ++ rest) valid'.1 listedFirst
      blank.2.1 (follows_rounds listedOthers closes)
    simp only [writeTokens_cons, writeTokens_append, Token.text, List.append_assoc, List.cons_append,
      List.nil_append]
    rw [separatedRest_of_round (char_write (by decide) blank.1 start)
      (by simp only [List.length_cons, List.length_append]; omega) read
      (by simp only [List.length_cons, List.length_append]; omega),
      separatedRest_writes writes values (value :: acc) others rest valid'.2 listedOthers
      blank.2.2 closes]
    simp

theorem separatedRest_reads (reads : Reads item valid tokens) {acc values : List α} {input rest : List Char}
    (read : separatedRest (padded (char ',')) item acc input = .ok values rest) (start : Unblank input) :
    ∃ items written, values = acc.reverse ++ items ∧ items.all valid = true ∧
      written.map Prod.fst = rounds tokens items ∧ blankGaps written = true ∧
      input = writeTokens written ++ rest ∧ Unblank rest := by
  fun_induction separatedRest (padded (char ',')) item acc input with
  | case1 input acc trace missed =>
    simp only [Reply.ok.injEq] at read
    obtain ⟨rfl, rfl⟩ := read
    exact ⟨[], [], by simp, rfl, rfl, rfl, rfl, start⟩
  | case2 => simp at read
  | case3 input acc comma after separated shorter trace missed =>
    simp only [Reply.ok.injEq] at read
    obtain ⟨rfl, rfl⟩ := read
    exact ⟨[], [], by simp, rfl, rfl, rfl, rfl, start⟩
  | case4 => simp at read
  | case5 input acc comma after separated shorter value mid readItem consumed ih =>
    obtain ⟨-, gap, rfl, blank, startItem⟩ := char_read separated start
    obtain ⟨validItem, first, listedFirst, blankFirst, rfl, startMid⟩ :=
      reads _ value mid readItem startItem
    obtain ⟨items, others, rfl, validItems, listedOthers, blankOthers, rfl, after⟩ := ih read startMid
    refine ⟨value :: items, (.symbol ',', gap) :: (first ++ others), by simp, by simp [validItem, validItems],
      by simp [listedFirst, listedOthers], by simp [blank, blankFirst, blankOthers], by simp [Token.text],
      after⟩
  | case6 => simp at read
  | case7 => simp at read

/-- A list is its first item, then its rounds. -/
theorem commaList_writes (writes : Writes item valid tokens Follows) {value : α} {values : List α}
    {written : List (Token × List Char)} {rest : List Char} (validFirst : valid value = true)
    (validRest : values.all valid = true)
    (listed : written.map Prod.fst = commaList ((value :: values).map tokens))
    (blank : blankGaps written = true) (closes : Closes rest) :
    ∃ mid, Unblank (writeTokens written ++ rest) ∧ item (writeTokens written ++ rest) = .ok value mid ∧
      separatedRest (padded (char ',')) item [value] mid = .ok (value :: values) rest := by
  rw [commaList_map_cons] at listed
  obtain ⟨first, others, rfl, listedFirst, listedOthers⟩ := List.map_eq_append_iff.mp listed
  simp only [blankGaps_append, Bool.and_eq_true] at blank
  obtain ⟨start, read⟩ := writes value first (writeTokens others ++ rest) validFirst listedFirst blank.1
    (follows_rounds listedOthers closes)
  refine ⟨writeTokens others ++ rest, by simpa using start, by simpa using read, ?_⟩
  simpa using separatedRest_writes writes values [value] others rest validRest listedOthers blank.2 closes

theorem commaList_reads (reads : Reads item valid tokens) {value : α} {values : List α}
    {input mid rest : List Char} (first : item input = .ok value mid)
    (read : separatedRest (padded (char ',')) item [value] mid = .ok values rest) (start : Unblank input) :
    values ≠ [] ∧ values.all valid = true ∧ ∃ written, written.map Prod.fst = commaList (values.map tokens) ∧
      blankGaps written = true ∧ input = writeTokens written ++ rest ∧ Unblank rest := by
  obtain ⟨validFirst, firstWritten, listedFirst, blankFirst, rfl, startMid⟩ := reads input value mid first start
  obtain ⟨items, others, rfl, validItems, listedOthers, blankOthers, rfl, after⟩ :=
    separatedRest_reads reads read startMid
  refine ⟨by simp, by simp [validFirst, validItems], firstWritten ++ others, ?_,
    by simp [blankFirst, blankOthers], by simp, after⟩
  rw [List.reverse_singleton, List.singleton_append, commaList_map_cons, List.map_append, listedFirst,
    listedOthers]

theorem separatedList1_writes (writes : Writes item valid tokens Follows) :
    Writes (separatedList1 (padded (char ',')) item) (fun values => !values.isEmpty && values.all valid)
      (fun values => commaList (values.map tokens)) Closes := by
  intro values written rest valid' listed blank closes
  cases values with
  | nil => simp at valid'
  | cons value values =>
    simp only [List.isEmpty_cons, Bool.not_false, Bool.true_and, List.all_cons, Bool.and_eq_true] at valid'
    obtain ⟨mid, start, read, more⟩ := commaList_writes writes valid'.1 valid'.2 listed blank closes
    refine ⟨start, ?_⟩
    simp only [separatedList1, read]
    exact more

theorem separatedList1_reads (reads : Reads item valid tokens) :
    Reads (separatedList1 (padded (char ',')) item) (fun values => !values.isEmpty && values.all valid)
      (fun values => commaList (values.map tokens)) := by
  intro input values rest read start
  simp only [separatedList1] at read
  cases first : item input with
  | ok value mid =>
    rw [first] at read
    obtain ⟨nonempty, validAll, written⟩ := commaList_reads reads first read start
    exact ⟨by simp [nonempty, validAll], written⟩
  | miss trace => simp [first] at read
  | fail trace => simp [first] at read

theorem separatedList0_writes (writes : Writes item valid tokens Follows)
    (empty : ∀ text, Closes text → (item text).missed = true) :
    Writes (separatedList0 (padded (char ',')) item) (fun values => values.all valid)
      (fun values => commaList (values.map tokens)) Closes := by
  intro values written rest valid' listed blank closes
  cases values with
  | nil =>
    obtain rfl := List.map_eq_nil_iff.mp listed
    have missed := empty rest closes
    refine ⟨closes.follows.delimited.unblank, ?_⟩
    simp only [separatedList0, writeTokens_nil, List.nil_append]
    cases first : item rest <;> simp_all [Reply.missed]
  | cons value values =>
    simp only [List.all_cons, Bool.and_eq_true] at valid'
    obtain ⟨mid, start, read, more⟩ := commaList_writes writes valid'.1 valid'.2 listed blank closes
    refine ⟨start, ?_⟩
    simp only [separatedList0, read]
    exact more

theorem separatedList0_reads (reads : Reads item valid tokens) :
    Reads (separatedList0 (padded (char ',')) item) (fun values => values.all valid)
      (fun values => commaList (values.map tokens)) := by
  intro input values rest read start
  simp only [separatedList0] at read
  cases first : item input with
  | ok value mid =>
    rw [first] at read
    obtain ⟨-, validAll, written⟩ := commaList_reads reads first read start
    exact ⟨validAll, written⟩
  | miss trace =>
    simp only [first, Reply.ok.injEq] at read
    obtain ⟨rfl, rfl⟩ := read
    exact ⟨rfl, [], rfl, rfl, rfl, start⟩
  | fail trace => simp [first] at read

/-- A list between brackets, as constructor arguments and member bindings are written. -/
theorem bracketed_writes (writes : Writes item valid tokens Follows)
    (empty : ∀ text, Closes text → (item text).missed = true) {opening closing : Char}
    (symbol : Text.isAsciiSpace opening = false) (closes : closer closing = true) {label : String} :
    Writes (do
        let _ ← padded (char opening)
        let values ← separatedList0 (padded (char ',')) item
        let _ ← context label (cut (padded (char closing)))
        pure values)
      (fun values => values.all valid)
      (fun values => .symbol opening :: commaList (values.map tokens) ++ [.symbol closing]) Unblank := by
  intro values written rest valid' listed blank start
  obtain ⟨openGap, more, rfl, listedMore⟩ := written_cons listed
  obtain ⟨inner, last, rfl, listedInner, listedLast⟩ := List.map_eq_append_iff.mp listedMore
  obtain ⟨closeGap, rfl⟩ := written_single listedLast
  simp only [blankGaps_cons, blankGaps_append, blankGaps_nil, Bool.and_true, Bool.and_eq_true] at blank
  have closed : Closes (writeTokens [(.symbol closing, closeGap)] ++ rest) := by
    rintro c ⟨⟩
    exact closes
  obtain ⟨innerStart, readInner⟩ :=
    separatedList0_writes writes empty values inner _ valid' listedInner blank.2.1 closed
  have closeSymbol : Text.isAsciiSpace closing = false :=
    (delimited_of_head (delimiter_of_closer closes) []).unblank closing rfl
  simp only [writeTokens_cons, writeTokens_append, writeTokens_nil, Token.text, List.append_assoc,
    List.cons_append, List.nil_append, List.append_nil] at readInner innerStart ⊢
  refine ⟨fun c first => by cases first; exact symbol, ?_⟩
  rw [bind_of_ok (char_write symbol blank.1 innerStart), bind_of_ok readInner,
    bind_of_ok (context_cut_of_ok (char_write closeSymbol blank.2.2 start))]
  rfl

theorem bracketed_reads (reads : Reads item valid tokens) {opening closing : Char} {label : String} :
    Reads (do
        let _ ← padded (char opening)
        let values ← separatedList0 (padded (char ',')) item
        let _ ← context label (cut (padded (char closing)))
        pure values)
      (fun values => values.all valid)
      (fun values => .symbol opening :: commaList (values.map tokens) ++ [.symbol closing]) := by
  intro input values rest read start
  obtain ⟨_, afterOpen, readOpen, read⟩ := bind_eq_ok.mp read
  obtain ⟨inner, afterInner, readInner, read⟩ := bind_eq_ok.mp read
  obtain ⟨_, afterClose, readClose, read⟩ := bind_eq_ok.mp read
  simp only [pure_apply, Reply.ok.injEq] at read
  obtain ⟨rfl, rfl⟩ := read
  simp only [context_eq_ok, cut_eq_ok] at readClose
  obtain ⟨-, openGap, rfl, openBlank, startInner⟩ := char_read readOpen start
  obtain ⟨validInner, innerWritten, listedInner, blankInner, rfl, startClose⟩ :=
    separatedList0_reads reads _ _ _ readInner startInner
  obtain ⟨-, closeGap, rfl, closeBlank, after⟩ := char_read readClose startClose
  exact ⟨validInner, (.symbol opening, openGap) :: innerWritten ++ [(.symbol closing, closeGap)],
    by simp [listedInner], by simp [openBlank, blankInner, closeBlank], by simp [Token.text], after⟩

end Lists

/-! ### Where a part is absent -/

section Absent

variable {text : List Char}

theorem not_start_of_closes (closes : Closes text) : ∀ c ∈ text.head?, isIdentifierStart c = false := by
  intro c first
  have head := delimiter_of_closer (closes c first)
  simp only [delimiter, Bool.and_eq_true, Bool.not_eq_true'] at head
  cases start : isIdentifierStart c
  · rfl
  · rw [isIdentifierChar_of_isIdentifierStart start] at head
    cases head.1.2

theorem memberPath_missed (other : ∀ c ∈ text.head?, isIdentifierStart c = false) :
    (memberPath text).missed = true := by
  apply bind_missed
  have missed := identifier_missed other
  simp only [separatedList1]
  cases read : identifier text <;> simp_all [Reply.missed]

/-- No path starts where a list closes, so a list of paths may be empty. -/
theorem pathItem_empty (text : List Char) (closes : Closes text) : (padded memberPath text).missed = true := by
  rw [padded_missed closes.follows.delimited.unblank]
  exact memberPath_missed (not_start_of_closes closes)

/-- No binding starts where a list closes, so a list of bindings may be empty. -/
theorem memberBinding_empty (text : List Char) (closes : Closes text) : (memberBinding text).missed = true := by
  apply bind_missed
  rw [padded_missed closes.follows.delimited.unblank]
  exact identifier_missed (not_start_of_closes closes)

/-- A symbol other than `c` at the start. -/
theorem head_ne_of_symbol {c d : Char} {written : List (Token × List Char)} {tokens : List Token}
    {rest : List Char} (listed : written.map Prod.fst = .symbol d :: tokens) (other : d ≠ c) :
    ∀ e ∈ (writeTokens written ++ rest).head?, e ≠ c := by
  obtain ⟨gap, more, rfl, -⟩ := written_cons listed
  rintro e ⟨⟩
  exact other

theorem delimited_of_symbol {d : Char} {written : List (Token × List Char)} {tokens : List Token}
    {rest : List Char} (listed : written.map Prod.fst = .symbol d :: tokens) (head : delimiter d = true) :
    Delimited (writeTokens written ++ rest) := by
  obtain ⟨gap, more, rfl, -⟩ := written_cons listed
  rintro e ⟨⟩
  exact head

theorem closer_ne_brace {c : Char} (closing : closer c = true) : c ≠ '\x7b' := by
  rintro rfl
  simp [closer, Text.isBlank] at closing

end Absent

/-! ### Bodies after `new` -/

section Bodies

variable {parens : Bool} {written : List (Token × List Char)} {rest : List Char}

theorem anonymousBody_write {fields : List Field} (valid : (Term.anonymous fields).wellFormed = true)
    (listed : written.map Prod.fst = (Term.anonymous fields).bodyTokens parens)
    (blank : blankGaps written = true) (closes : Closes rest) :
    Unblank (writeTokens written ++ rest) ∧
      anonymousBody (writeTokens written ++ rest) = .ok (.anonymous fields) rest := by
  obtain ⟨openGap, more, rfl, listedMore⟩ := written_cons listed
  obtain ⟨inner, last, rfl, listedInner, listedLast⟩ := List.map_eq_append_iff.mp listedMore
  obtain ⟨closeGap, rfl⟩ := written_single listedLast
  simp only [blankGaps_cons, blankGaps_append, blankGaps_nil, Bool.and_true, Bool.and_eq_true] at blank
  have closed : Closes (writeTokens [(.symbol '\x7d', closeGap)] ++ rest) := by
    rintro c ⟨⟩
    decide
  obtain ⟨innerStart, readInner⟩ :=
    separatedList1_writes projectionField_writes fields inner _ valid listedInner blank.2.1 closed
  simp only [writeTokens_cons, writeTokens_append, writeTokens_nil, Token.text, List.append_assoc,
    List.cons_append, List.nil_append, List.append_nil] at readInner innerStart ⊢
  refine ⟨fun c first => by cases first; decide, ?_⟩
  rw [anonymousBody, bind_of_ok (char_write (by decide) blank.1 innerStart),
    bind_of_ok (context_eq_ok.mpr readInner),
    bind_of_ok (context_cut_of_ok (char_write (by decide) blank.2.2 closes.follows.delimited.unblank))]
  rfl

theorem anonymousBody_read {input : List Char} {term : Term} (read : anonymousBody input = .ok term rest)
    (start : Unblank input) : (∀ path, term ≠ .path path) ∧ term.wellFormed = true ∧
      ∃ written, written.map Prod.fst = term.bodyTokens true ∧ blankGaps written = true ∧
        input = writeTokens written ++ rest ∧ Unblank rest := by
  obtain ⟨_, afterOpen, readOpen, readFields⟩ := bind_eq_ok.mp read
  obtain ⟨fields, afterFields, fieldsRead, readClose⟩ := bind_eq_ok.mp readFields
  obtain ⟨_, afterClose, closeRead, readEnd⟩ := bind_eq_ok.mp readClose
  simp only [pure_apply, Reply.ok.injEq] at readEnd
  obtain ⟨rfl, rfl⟩ := readEnd
  simp only [context_eq_ok, cut_eq_ok] at fieldsRead closeRead
  obtain ⟨-, openGap, rfl, openBlank, startFields⟩ := char_read readOpen start
  obtain ⟨validFields, inner, listedInner, blankInner, rfl, startClose⟩ :=
    separatedList1_reads projectionField_reads _ _ _ fieldsRead startFields
  obtain ⟨-, closeGap, rfl, closeBlank, after⟩ := char_read closeRead startClose
  exact ⟨by simp, validFields, (.symbol '\x7b', openGap) :: inner ++ [(.symbol '\x7d', closeGap)],
    by simp [Term.bodyTokens, listedInner], by simp [openBlank, blankInner, closeBlank], by simp [Token.text],
    after⟩

theorem construct_write {typeName : String} {args : List MemberPath}
    (valid : (Term.construct typeName args).wellFormed = true)
    (listed : written.map Prod.fst = (Term.construct typeName args).bodyTokens parens)
    (blank : blankGaps written = true) (closes : Closes rest) :
    Unblank (writeTokens written ++ rest) ∧
      namedBody (writeTokens written ++ rest) = .ok (.construct typeName args) rest := by
  simp only [Term.wellFormed, Bool.and_eq_true] at valid
  obtain ⟨typeGap, arguments, rfl, listedArguments⟩ := written_cons listed
  simp only [blankGaps_cons, Bool.and_eq_true] at blank
  simp only [writeTokens_cons, Token.text, List.append_assoc]
  refine ⟨unblank_of_isIdentifier valid.1 _, ?_⟩
  rw [namedBody, bind_of_ok (identifier_write valid.1 blank.1 (delimited_of_symbol listedArguments (by decide))),
    bind_of_ok (optional_of_ok args rest ?arguments), bind_of_ok (optional_of_missed ?noBindings)]
  · rfl
  case arguments =>
    exact (bracketed_writes memberPath_writes pathItem_empty (by decide) (by decide) args arguments rest
      valid.2 listedArguments blank.2 closes.follows.delimited.unblank).2
  case noBindings =>
    exact bind_missed (padded_char_missed closes.follows.delimited.unblank
      (fun c first => closer_ne_brace (closes c first)))

theorem memberInit_write {typeName : String} {ctorArgs : List MemberPath} {bindings : List Binding}
    (valid : (Term.memberInit typeName ctorArgs bindings).wellFormed = true)
    (listed : written.map Prod.fst = (Term.memberInit typeName ctorArgs bindings).bodyTokens parens)
    (blank : blankGaps written = true) (closes : Closes rest) :
    Unblank (writeTokens written ++ rest) ∧
      namedBody (writeTokens written ++ rest) = .ok (.memberInit typeName ctorArgs bindings) rest := by
  simp only [Term.wellFormed, Bool.and_eq_true] at valid
  obtain ⟨typeGap, more, rfl, listedMore⟩ := written_cons listed
  simp only [blankGaps_cons, Bool.and_eq_true] at blank
  simp only [writeTokens_cons, Token.text, List.append_assoc]
  refine ⟨unblank_of_isIdentifier valid.1.1 _, ?_⟩
  by_cases shown : (parens || !ctorArgs.isEmpty) = true
  · -- the arguments are written, perhaps as an empty `()`
    rw [if_pos shown] at listedMore
    obtain ⟨arguments, bindingsWritten, rfl, listedArguments, listedBindings⟩ :=
      List.map_eq_append_iff.mp listedMore
    simp only [blankGaps_append, Bool.and_eq_true] at blank
    rw [writeTokens_append, List.append_assoc, namedBody,
      bind_of_ok (identifier_write valid.1.1 blank.1 (delimited_of_symbol listedArguments (by decide))),
      bind_of_ok (optional_of_ok ctorArgs (writeTokens bindingsWritten ++ rest) ?arguments),
      bind_of_ok (optional_of_ok bindings rest ?bindings)]
    · rfl
    case arguments =>
      exact (bracketed_writes memberPath_writes pathItem_empty (by decide) (by decide) ctorArgs arguments _
        valid.1.2 listedArguments blank.2.1 (delimited_of_symbol listedBindings (by decide)).unblank).2
    case bindings =>
      exact (bracketed_writes memberBinding_writes memberBinding_empty (by decide) (by decide) bindings
        bindingsWritten rest valid.2 listedBindings blank.2.2 closes.follows.delimited.unblank).2
  · -- no arguments and no `()`: the bindings follow the type name
    rw [if_neg shown, List.nil_append] at listedMore
    have none : ctorArgs = [] := by
      simp only [Bool.or_eq_true, Bool.not_eq_true', List.isEmpty_eq_false_iff, not_or] at shown
      simpa using shown.2
    subst none
    rw [namedBody,
      bind_of_ok (identifier_write valid.1.1 blank.1 (delimited_of_symbol listedMore (by decide))),
      bind_of_ok (optional_of_missed ?noArguments), bind_of_ok (optional_of_ok bindings rest ?bindings)]
    · rfl
    case noArguments =>
      exact bind_missed (padded_char_missed (delimited_of_symbol listedMore (by decide)).unblank
        (head_ne_of_symbol listedMore (by decide)))
    case bindings =>
      exact (bracketed_writes memberBinding_writes memberBinding_empty (by decide) (by decide) bindings
        more rest valid.2 listedMore blank.2 closes.follows.delimited.unblank).2

/-- A named construction reads as a constructor call, a member initialisation with its
arguments, or one without: only the last leaves out `()`. -/
theorem namedBody_read {input : List Char} {term : Term} (read : namedBody input = .ok term rest)
    (start : Unblank input) : (∀ path, term ≠ .path path) ∧ term.wellFormed = true ∧
      ∃ parens written, written.map Prod.fst = term.bodyTokens parens ∧ blankGaps written = true ∧
        input = writeTokens written ++ rest ∧ Unblank rest := by
  obtain ⟨typeName, afterType, typeRead, readArgs⟩ := bind_eq_ok.mp read
  obtain ⟨found, afterArgs, argsRead, readBindings⟩ := bind_eq_ok.mp readArgs
  obtain ⟨foundBindings, afterBindings, bindingsRead, built⟩ := bind_eq_ok.mp readBindings
  obtain ⟨validType, typeGap, rfl, typeBlank, startArgs⟩ := identifier_read typeRead start
  rcases optional_eq_ok.mp argsRead with ⟨args, argsBlock, rfl⟩ | ⟨argsMissed, rfl, rfl⟩
  · obtain ⟨validArgs, arguments, listedArguments, blankArguments, rfl, startBindings⟩ :=
      bracketed_reads memberPath_reads _ _ _ argsBlock startArgs
    rcases optional_eq_ok.mp bindingsRead with ⟨bindings, bindingsBlock, rfl⟩ | ⟨-, rfl, rfl⟩
    · obtain ⟨validBindings, bindingsWritten, listedBindings, blankBindings, rfl, after⟩ :=
        bracketed_reads memberBinding_reads _ _ _ bindingsBlock startBindings
      simp only [pure_apply, Reply.ok.injEq, Option.getD_some] at built
      obtain ⟨rfl, rfl⟩ := built
      refine ⟨by simp, by simp [Term.wellFormed, validType, validArgs, validBindings], true,
        (.word typeName.toList, typeGap) :: (arguments ++ bindingsWritten), ?_,
        by simp [typeBlank, blankArguments, blankBindings], by simp [Token.text], after⟩
      simp [Term.bodyTokens, argumentTokens, bindingTokens, listedArguments, listedBindings]
    · simp only [pure_apply, Reply.ok.injEq] at built
      obtain ⟨rfl, rfl⟩ := built
      exact ⟨by simp, by simp [Term.wellFormed, validType, validArgs], true,
        (.word typeName.toList, typeGap) :: arguments,
        by simp [Term.bodyTokens, argumentTokens, listedArguments], by simp [typeBlank, blankArguments],
        by simp [Token.text], startBindings⟩
  · rcases optional_eq_ok.mp bindingsRead with ⟨bindings, bindingsBlock, rfl⟩ | ⟨-, rfl, rfl⟩
    · obtain ⟨validBindings, bindingsWritten, listedBindings, blankBindings, rfl, after⟩ :=
        bracketed_reads memberBinding_reads _ _ _ bindingsBlock startArgs
      simp only [pure_apply, Reply.ok.injEq, Option.getD_none] at built
      obtain ⟨rfl, rfl⟩ := built
      refine ⟨by simp, by simp [Term.wellFormed, validType, validBindings], false,
        (.word typeName.toList, typeGap) :: bindingsWritten, ?_,
        by simp [typeBlank, blankBindings], by simp [Token.text], after⟩
      simp [Term.bodyTokens, bindingTokens, listedBindings]
    · simp [failHere] at built

end Bodies

end FlatProjection.Projection
