import FlatProjection.Projection.Parser
import Mathlib
/-
The lexical layer of projection text: blanks, identifiers, paths and `new`.
-/

namespace FlatProjection.Projection

open Step

/-- Whether a reply is a miss, after which a choice or an optional step tries what comes next. -/
def Reply.missed {α : Type} : Reply α → Bool
  | .miss _ => true
  | _ => false

/-- Text that does not start with an ASCII blank. -/
def Unblank (text : List Char) : Prop := ∀ c ∈ text.head?, Text.isAsciiSpace c = false

/-- Text whose first character cannot continue an identifier. -/
def EndsWord (text : List Char) : Prop := ∀ c ∈ text.head?, isIdentifierChar c = false

/-- Text that does not continue a dotted path: no identifier character follows, and no dot
followed by the start of an identifier. -/
def EndsPath (text : List Char) : Prop :=
  EndsWord text ∧ ∀ more, text = '.' :: more → ∀ c ∈ more.head?, isIdentifierStart c = false

/-- Whether a name is an identifier: an alphabetic character or `_`, then alphanumeric
characters or `_`. -/
def isIdentifier (name : String) : Bool :=
  match name.toList with
  | c :: more => isIdentifierStart c && more.all isIdentifierChar
  | [] => false

namespace MemberPath

/-- The characters of a path written with dots and no blanks. -/
def chars (path : MemberPath) : List Char :=
  path.root.toList ++ path.members.flatMap fun member => '.' :: member.toList

/-- Whether the root and every member of a path are identifiers. -/
def valid (path : MemberPath) : Bool := isIdentifier path.root && path.members.all isIdentifier

end MemberPath

/-! ### Runs of characters -/

section Runs

variable {p : Char → Bool} {text more rest : List Char}

theorem dropWhile_of_head (stop : ∀ c ∈ text.head?, p c = false) : text.dropWhile p = text := by
  cases text with
  | nil => rfl
  | cons c more => simp [stop c rfl]

theorem takeWhile_of_head (stop : ∀ c ∈ text.head?, p c = false) : text.takeWhile p = [] := by
  cases text with
  | nil => rfl
  | cons c more => simp [stop c rfl]

theorem head_dropWhile (p : Char → Bool) (text : List Char) :
    ∀ c ∈ (text.dropWhile p).head?, p c = false := by
  intro c first
  have stop := List.head?_dropWhile_not p text
  rw [first] at stop
  exact stop

/-- A run read up to its first stop. -/
theorem dropWhile_run (run : ∀ c ∈ more, p c = true) (stop : ∀ c ∈ rest.head?, p c = false) :
    (more ++ rest).dropWhile p = rest := by
  rw [List.dropWhile_append_of_pos run, dropWhile_of_head stop]

theorem takeWhile_run (run : ∀ c ∈ more, p c = true) (stop : ∀ c ∈ rest.head?, p c = false) :
    (more ++ rest).takeWhile p = more := by
  rw [List.takeWhile_append_of_pos run, takeWhile_of_head stop, List.append_nil]

theorem unblank_dropWhile (text : List Char) : Unblank (text.dropWhile Text.isAsciiSpace) :=
  head_dropWhile Text.isAsciiSpace text

/-- Blanks written before unblank text are exactly what `blanks` skips. -/
theorem dropWhile_gap {gap : List Char} (blank : gap.all Text.isAsciiSpace = true)
    (start : Unblank rest) : (gap ++ rest).dropWhile Text.isAsciiSpace = rest :=
  dropWhile_run (by simpa using blank) start

end Runs

/-! ### Step laws -/

namespace Step

variable {α β : Type} {step first second : Step α} {next : α → Step β}
  {input mid rest : List Char} {value : α}

theorem bind_apply (step : Step α) (next : α → Step β) (input : List Char) :
    (step >>= next) input = match step input with
      | .ok value rest => next value rest
      | .miss trace => .miss trace
      | .fail trace => .fail trace := rfl

theorem bind_of_ok (h : step input = .ok value mid) : (step >>= next) input = next value mid := by
  rw [bind_apply, h]

theorem bind_missed (h : (step input).missed = true) :
    ((step >>= next) input).missed = true := by
  rw [bind_apply]
  cases hs : step input <;> simp_all [Reply.missed]

theorem bind_eq_ok {result : β} : (step >>= next) input = .ok result rest ↔
    ∃ value mid, step input = .ok value mid ∧ next value mid = .ok result rest := by
  rw [bind_apply]
  cases step input <;> simp [and_assoc]

@[simp] theorem pure_apply (value : α) (input : List Char) :
    (pure value : Step α) input = .ok value input := rfl

theorem padded_apply (step : Step α) (input : List Char) :
    padded step input = match step (input.dropWhile Text.isAsciiSpace) with
      | .ok value rest => .ok value (rest.dropWhile Text.isAsciiSpace)
      | .miss trace => .miss trace
      | .fail trace => .fail trace := by
  rfl

theorem padded_of_ok (start : Unblank input) (h : step input = .ok value mid) :
    padded step input = .ok value (mid.dropWhile Text.isAsciiSpace) := by
  rw [padded_apply, dropWhile_of_head start, h]

theorem padded_missed (start : Unblank input) : (padded step input).missed = (step input).missed := by
  rw [padded_apply, dropWhile_of_head start]
  cases step input <;> rfl

theorem padded_eq_ok (start : Unblank input) : padded step input = .ok value rest ↔
    ∃ mid, step input = .ok value mid ∧ mid.dropWhile Text.isAsciiSpace = rest := by
  rw [padded_apply, dropWhile_of_head start]
  cases step input <;> simp [and_assoc]

@[simp] theorem context_eq_ok {label : String} :
    context label step input = .ok value rest ↔ step input = .ok value rest := by
  simp only [context]
  cases step input <;> simp

@[simp] theorem cut_eq_ok : cut step input = .ok value rest ↔ step input = .ok value rest := by
  simp only [cut]
  cases step input <;> simp

/-- A committed step never misses. -/
@[simp] theorem cut_missed : (cut step input).missed = false := by
  simp only [cut]
  cases step input <;> rfl

theorem orElse_eq_ok : orElse first second input = .ok value rest ↔
    first input = .ok value rest ∨ ((first input).missed = true ∧ second input = .ok value rest) := by
  simp only [orElse]
  cases first input <;> cases second input <;> simp [Reply.missed]

theorem optional_eq_ok {found : Option α} : optional step input = .ok found rest ↔
    (∃ value, step input = .ok value rest ∧ found = some value) ∨
      ((step input).missed = true ∧ found = none ∧ rest = input) := by
  simp only [optional]
  cases step input <;> simp [Reply.missed, and_assoc, and_comm, eq_comm]

theorem optional_of_ok (value : α) (rest : List Char) (h : step input = .ok value rest) :
    optional step input = .ok (some value) rest :=
  optional_eq_ok.mpr (.inl ⟨value, h, rfl⟩)

theorem optional_of_missed (h : (step input).missed = true) : optional step input = .ok none input :=
  optional_eq_ok.mpr (.inr ⟨h, rfl, rfl⟩)

theorem char_eq_ok {c d : Char} : char c input = .ok d rest ↔ d = c ∧ input = c :: rest := by
  cases input with
  | nil => simp [char, satisfy]
  | cons e more =>
    by_cases same : e = c
    · subst same
      simp [char, satisfy, eq_comm]
    · simp [char, satisfy, same]

@[simp] theorem char_cons_self {c : Char} : char c (c :: rest) = .ok c rest := by
  simp [char, satisfy]

theorem char_missed {c : Char} (other : ∀ d ∈ input.head?, d ≠ c) : (char c input).missed = true := by
  cases input with
  | nil => rfl
  | cons e more => simp [char, satisfy, other e rfl, Reply.missed]

section Rounds

variable {separator : Step β} {item : Step α} {acc : List α} {mark : β} {after : List Char}

/-- A list ends where no separator follows. -/
theorem separatedRest_of_missed (missed : (separator input).missed = true) :
    separatedRest separator item acc input = .ok acc.reverse input := by
  rw [separatedRest.eq_1]
  cases separated : separator input <;> simp_all [Reply.missed]

/-- A list also ends before a separator that no item follows. -/
theorem separatedRest_of_item_missed (separated : separator input = .ok mark after)
    (shorter : after.length < input.length) (missed : (item after).missed = true) :
    separatedRest separator item acc input = .ok acc.reverse input := by
  rw [separatedRest.eq_1, separated]
  simp only [if_pos shorter]
  cases read : item after <;> simp_all [Reply.missed]

/-- A round that reads a separator and an item goes on after the item. -/
theorem separatedRest_of_round (separated : separator input = .ok mark after)
    (shorter : after.length < input.length) (read : item after = .ok value mid)
    (consumed : mid.length < input.length) :
    separatedRest separator item acc input = separatedRest separator item (value :: acc) mid := by
  rw [separatedRest.eq_1 separator item acc input, separated]
  simp only [if_pos shorter, read, if_pos consumed]

end Rounds

end Step

/-! ### Identifiers -/

theorem identifier_cons (c : Char) (more : List Char) :
    identifier (c :: more) = if isIdentifierStart c then
      .ok (String.ofList (c :: more.takeWhile isIdentifierChar)) (more.dropWhile isIdentifierChar)
    else .miss [(c :: more, .unknown)] := by
  by_cases start : isIdentifierStart c <;>
    simp [identifier, bind_apply, satisfy, Step.takeWhile, start]

theorem isIdentifier_iff {name : String} : isIdentifier name = true ↔
    ∃ c more, name.toList = c :: more ∧ isIdentifierStart c = true ∧ ∀ d ∈ more, isIdentifierChar d = true := by
  unfold isIdentifier
  split <;> simp_all [and_assoc]

/-- An identifier is the longest run of identifier characters at the start of the text. -/
theorem identifier_eq_ok {input rest : List Char} {name : String} :
    identifier input = .ok name rest ↔ isIdentifier name = true ∧ EndsWord rest ∧ input = name.toList ++ rest := by
  constructor
  · intro read
    cases input with
    | nil => simp [identifier, bind_apply, satisfy] at read
    | cons c more =>
      rw [identifier_cons] at read
      by_cases start : isIdentifierStart c
      · simp only [start, if_true, Reply.ok.injEq] at read
        obtain ⟨rfl, rfl⟩ := read
        refine ⟨isIdentifier_iff.mpr ⟨c, _, String.toList_ofList, start, ?_⟩, head_dropWhile _ more, ?_⟩
        · exact List.all_eq_true.mp List.all_takeWhile
        · simp [String.toList_ofList]
      · simp [start] at read
  · rintro ⟨valid, ends, rfl⟩
    obtain ⟨c, more, spelled, start, run⟩ := isIdentifier_iff.mp valid
    rw [spelled, List.cons_append, identifier_cons, if_pos start, takeWhile_run run ends,
      dropWhile_run run ends, ← spelled, String.ofList_toList]

theorem identifier_missed {input : List Char} (other : ∀ c ∈ input.head?, isIdentifierStart c = false) :
    (identifier input).missed = true := by
  cases input with
  | nil => rfl
  | cons c more => simp [identifier_cons, other c rfl, Reply.missed]

/-! ### Dotted paths -/

/-- The members that follow the root of a path, each after its dot. -/
def dottedMembers (members : List String) : List Char :=
  members.flatMap fun member => '.' :: member.toList

theorem MemberPath.chars_eq (path : MemberPath) :
    path.chars = path.root.toList ++ dottedMembers path.members := rfl

theorem endsWord_dottedMembers {members : List String} {rest : List Char} (ends : EndsPath rest) :
    EndsWord (dottedMembers members ++ rest) := by
  cases members with
  | nil => exact ends.1
  | cons member more =>
    intro c first
    simp only [dottedMembers, List.flatMap_cons, List.cons_append, List.head?_cons,
      Option.mem_def, Option.some.injEq] at first
    subst first
    decide

/-- The rounds after the root of a path: a dot, then an identifier. -/
theorem separatedRest_dots_eq_ok {acc parts : List String} {input rest : List Char}
    (read : separatedRest (char '.') identifier acc input = .ok parts rest) (ends : EndsWord input) :
    ∃ members, parts = acc.reverse ++ members ∧ members.all isIdentifier = true ∧ EndsPath rest ∧
      input = dottedMembers members ++ rest := by
  fun_induction separatedRest (char '.') identifier acc input with
  | case1 input acc trace missed =>
    simp only [Reply.ok.injEq] at read
    obtain ⟨rfl, rfl⟩ := read
    refine ⟨[], by simp, rfl, ⟨ends, ?_⟩, rfl⟩
    rintro more rfl
    simp [char, satisfy] at missed
  | case2 input acc trace failed => simp at read
  | case3 input acc dot after separated shorter trace missed =>
    simp only [Reply.ok.injEq] at read
    obtain ⟨rfl, rfl⟩ := read
    obtain ⟨-, rfl⟩ := char_eq_ok.mp separated
    refine ⟨[], by simp, rfl, ⟨ends, ?_⟩, rfl⟩
    rintro more ⟨⟩ c first
    cases after with
    | nil => simp at first
    | cons d tail =>
      cases first
      cases start : isIdentifierStart c
      · rfl
      · simp [identifier_cons, start] at missed
  | case4 input acc dot after separated shorter trace failed => simp at read
  | case5 input acc dot after separated shorter member next read_member shorter' ih =>
    obtain ⟨-, rfl⟩ := char_eq_ok.mp separated
    obtain ⟨valid, ends', rfl⟩ := identifier_eq_ok.mp read_member
    obtain ⟨members, rfl, all_valid, closed, rfl⟩ := ih read ends'
    exact ⟨member :: members, by simp, by simp [valid, all_valid], closed, by simp [dottedMembers]⟩
  | case6 => simp at read
  | case7 => simp at read

theorem separatedRest_dots_of_valid {members : List String} {rest : List Char} (acc : List String)
    (valid : members.all isIdentifier = true) (ends : EndsPath rest) :
    separatedRest (char '.') identifier acc (dottedMembers members ++ rest) = .ok (acc.reverse ++ members) rest := by
  induction members generalizing acc with
  | nil =>
    rw [dottedMembers, List.flatMap_nil, List.nil_append, List.append_nil]
    cases rest with
    | nil => exact separatedRest_of_missed rfl
    | cons c more =>
      by_cases dot : c = '.'
      · -- a dot not followed by an identifier is not part of the path
        subst dot
        exact separatedRest_of_item_missed char_cons_self (by simp)
          (identifier_missed (ends.2 more rfl))
      · exact separatedRest_of_missed (char_missed (by simpa using dot))
  | cons member more ih =>
    simp only [List.all_cons, Bool.and_eq_true] at valid
    have read : identifier (member.toList ++ (dottedMembers more ++ rest)) =
        .ok member (dottedMembers more ++ rest) :=
      identifier_eq_ok.mpr ⟨valid.1, endsWord_dottedMembers ends, rfl⟩
    have spelled : dottedMembers (member :: more) ++ rest =
        '.' :: (member.toList ++ (dottedMembers more ++ rest)) := by
      simp [dottedMembers]
    rw [spelled, separatedRest_of_round char_cons_self (by simp) read
      (by simp only [List.length_cons, List.length_append]; omega),
      ih (member :: acc) valid.2]
    simp

/-- The root of a path is the identifier at its start. -/
theorem identifier_root {path : MemberPath} {rest : List Char} (valid : path.valid = true)
    (ends : EndsPath rest) :
    identifier (path.chars ++ rest) = .ok path.root (dottedMembers path.members ++ rest) := by
  simp only [MemberPath.valid, Bool.and_eq_true] at valid
  rw [MemberPath.chars_eq, List.append_assoc]
  exact identifier_eq_ok.mpr ⟨valid.1, endsWord_dottedMembers ends, rfl⟩

/-- A path is read whole: the root, then every `.member` whose member is an identifier. -/
theorem memberPath_eq_ok {input rest : List Char} {path : MemberPath} :
    memberPath input = .ok path rest ↔ path.valid = true ∧ EndsPath rest ∧ input = path.chars ++ rest := by
  constructor
  · intro read
    obtain ⟨parts, mid, listed, built⟩ := bind_eq_ok.mp read
    simp only [separatedList1] at listed
    cases first : identifier input with
    | miss trace => simp [first] at listed
    | fail trace => simp [first] at listed
    | ok root after =>
      rw [first] at listed
      obtain ⟨valid, ends, rfl⟩ := identifier_eq_ok.mp first
      obtain ⟨members, rfl, all_valid, closed, rfl⟩ := separatedRest_dots_eq_ok listed ends
      simp only [List.reverse_singleton, List.singleton_append, pure_apply, Reply.ok.injEq] at built
      obtain ⟨rfl, rfl⟩ := built
      exact ⟨by simp [MemberPath.valid, valid, all_valid], closed, by simp [MemberPath.chars_eq]⟩
  · rintro ⟨valid, ends, rfl⟩
    have listed : separatedList1 (char '.') identifier (path.chars ++ rest) =
        .ok (path.root :: path.members) rest := by
      simp only [separatedList1, identifier_root valid ends]
      simp only [MemberPath.valid, Bool.and_eq_true] at valid
      simpa using separatedRest_dots_of_valid [path.root] valid.2 ends
    rw [memberPath, bind_of_ok listed]
    rfl

/-! ### The keyword -/

theorem isPrefixOf_eq_true_iff {word input : List Char} :
    word.isPrefixOf input = true ↔ ∃ after, input = word ++ after := by
  induction word generalizing input with
  | nil => simp [List.isPrefixOf]
  | cons c more ih =>
    cases input with
    | nil => simp [List.isPrefixOf]
    | cons d tail =>
      simp only [List.isPrefixOf, Bool.and_eq_true, beq_iff_eq, ih, List.cons_append, List.cons.injEq]
      constructor
      · rintro ⟨rfl, after, rfl⟩
        exact ⟨after, rfl, rfl⟩
      · rintro ⟨after, rfl, rfl⟩
        exact ⟨rfl, after, rfl⟩

theorem notFollowedBy_satisfy {test : Char → Bool} {input : List Char} :
    notFollowedBy (satisfy test) input =
      if input.head?.any test then .miss [(input, .unknown)] else .ok () input := by
  cases input with
  | nil => rfl
  | cons c more => by_cases passes : test c <;> simp [notFollowedBy, satisfy, passes]

theorem endsWord_iff {text : List Char} : EndsWord text ↔ text.head?.any isIdentifierChar = false := by
  cases text <;> simp [EndsWord]

theorem newKeyword_apply (input : List Char) : newKeyword input =
    if "new".toList.isPrefixOf input then notFollowedBy (satisfy isIdentifierChar) (input.drop 3)
    else .miss [(input, .unknown)] := by
  simp only [newKeyword, bind_apply, tag]
  by_cases prefixed : "new".toList.isPrefixOf input
  · rw [if_pos prefixed, if_pos prefixed]
    rfl
  · rw [if_neg prefixed, if_neg prefixed]

/-- The keyword is the word `new` standing alone. -/
theorem newKeyword_eq_ok {input rest : List Char} :
    newKeyword input = .ok () rest ↔ input = "new".toList ++ rest ∧ EndsWord rest := by
  rw [newKeyword_apply, endsWord_iff]
  constructor
  · intro read
    split at read
    · rename_i prefixed
      obtain ⟨after, rfl⟩ := isPrefixOf_eq_true_iff.mp prefixed
      have dropped : ("new".toList ++ after).drop 3 = after := by simp
      rw [dropped, notFollowedBy_satisfy] at read
      split at read
      · cases read
      · rename_i ends
        simp only [Reply.ok.injEq, true_and] at read
        subst read
        simpa using ends
    · cases read
  · rintro ⟨rfl, ends⟩
    have dropped : ("new".toList ++ rest).drop 3 = rest := by simp
    rw [if_pos (isPrefixOf_eq_true_iff.mpr ⟨rest, rfl⟩), dropped,
      notFollowedBy_satisfy, if_neg (by simp [ends])]

/-- The keyword never fails: it reads `new` or misses. -/
theorem newKeyword_missed {input : List Char} (absent : ∀ rest, newKeyword input ≠ .ok () rest) :
    (newKeyword input).missed = true := by
  rw [newKeyword_apply] at absent ⊢
  split
  · rw [notFollowedBy_satisfy] at absent ⊢
    split
    · rfl
    · exact absurd (by simp_all) (absent (input.drop 3))
  · rfl

/-- The keyword is the identifier `new`. -/
theorem newKeyword_eq_ok_iff_identifier {input rest : List Char} :
    newKeyword input = .ok () rest ↔ identifier input = .ok "new" rest := by
  rw [newKeyword_eq_ok, identifier_eq_ok]
  constructor
  · rintro ⟨rfl, ends⟩
    exact ⟨by decide, ends, rfl⟩
  · rintro ⟨-, ends, rfl⟩
    exact ⟨rfl, ends⟩

end FlatProjection.Projection

/-! ### Blanks against identifier characters -/

namespace FlatProjection.Text

/-- Whether no range of a table holds `code`, by a plain scan of the table. -/
def RangeTable.omits (table : RangeTable) (code : Nat) : Bool :=
  table.toList.all fun range => !(range.1 ≤ code && code ≤ range.2)

/-- The binary search only answers `true` at a range that holds the code; no sortedness is
needed for this direction. -/
theorem RangeTable.covers_of_containsBetween {table : RangeTable} {code lo hi : Nat}
    (found : table.containsBetween code lo hi = true) :
    ∃ range ∈ table.toList, range.1 ≤ code ∧ code ≤ range.2 := by
  fun_induction RangeTable.containsBetween table code lo hi with
  | case1 => cases found
  | case2 lo hi inside mid first last stored below ih => exact ih found
  | case3 lo hi inside mid first last stored notBelow above ih => exact ih found
  | case4 lo hi inside mid first last stored notBelow notAbove =>
    exact ⟨(first, last), Array.mem_toList_iff.mpr (Array.mem_of_getElem? stored), by omega, by omega⟩
  | case5 => cases found

theorem RangeTable.contains_eq_false {table : RangeTable} {code : Nat}
    (omitted : table.omits code = true) : table.contains code = false := by
  cases found : table.contains code
  · rfl
  · obtain ⟨range, listed, low, high⟩ := covers_of_containsBetween found
    have outside := List.all_eq_true.mp omitted range listed
    simp [low, high] at outside

/-- The blanks of Unicode beyond ASCII. -/
def wideBlankCodes : List Nat :=
  [0x85, 0xA0, 0x1680, 0x2000, 0x2001, 0x2002, 0x2003, 0x2004, 0x2005, 0x2006, 0x2007, 0x2008,
    0x2009, 0x200A, 0x2028, 0x2029, 0x202F, 0x205F, 0x3000]

theorem wideBlankCodes_omitted :
    wideBlankCodes.all (fun code => alphabeticRanges.omits code && numericRanges.omits code) = true := by
  decide +kernel

/-- No blank is a letter or a digit. -/
theorem isAlphanumeric_eq_false_of_isBlank {c : Char} (blank : isBlank c = true) :
    isAlphanumeric c = false := by
  by_cases narrow : c.toNat < 128
  · -- the ASCII blanks: tab to carriage return, and space
    have code : c.toNat = 9 ∨ c.toNat = 10 ∨ c.toNat = 11 ∨ c.toNat = 12 ∨ c.toNat = 13 ∨
        c.toNat = 32 := by
      simp [isBlank] at blank
      omega
    rcases code with h | h | h | h | h | h <;> rw [← Char.ofNat_toNat c, h] <;> decide
  · have wide : c.toNat ∈ wideBlankCodes := by
      simp [isBlank] at blank
      simp [wideBlankCodes]
      omega
    have omitted := List.all_eq_true.mp wideBlankCodes_omitted _ wide
    simp only [Bool.and_eq_true] at omitted
    simp [isAlphanumeric, isAlphabetic, isNumeric, narrow, RangeTable.contains_eq_false omitted.1,
      RangeTable.contains_eq_false omitted.2]

end FlatProjection.Text

namespace FlatProjection.Projection

variable {c : Char}

theorem isIdentifierChar_of_isIdentifierStart (start : isIdentifierStart c = true) :
    isIdentifierChar c = true := by
  simp only [isIdentifierStart, Bool.or_eq_true] at start
  rcases start with alphabetic | underscore
  · simp [isIdentifierChar, Text.isAlphanumeric, alphabetic]
  · simp [isIdentifierChar, underscore]

/-- A blank, ASCII or not, ends an identifier. -/
theorem isIdentifierChar_eq_false_of_isBlank (blank : Text.isBlank c = true) :
    isIdentifierChar c = false := by
  have notUnderscore : c ≠ '_' := by
    rintro rfl
    simp [Text.isBlank] at blank
  simp [isIdentifierChar, Text.isAlphanumeric_eq_false_of_isBlank blank, notUnderscore]

theorem isAsciiSpace_eq_false_of_isIdentifierChar (ident : isIdentifierChar c = true) :
    Text.isAsciiSpace c = false := by
  cases space : Text.isAsciiSpace c
  · rfl
  · rw [isIdentifierChar_eq_false_of_isBlank (Text.isBlank_of_isAsciiSpace space)] at ident
    cases ident

end FlatProjection.Projection
