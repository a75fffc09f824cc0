import FlatProjection.Proofs.Projection.Lexical
/-
Projection text as tokens and the gaps of blanks between them.
-/

namespace FlatProjection.Projection

/-- The tokens of projection text. -/
inductive Token where
  | word (text : List Char)
  | keyword
  | symbol (c : Char)
deriving DecidableEq, Repr

namespace Token

/-- The characters of a token. -/
def text : Token → List Char
  | .word text => text
  | .keyword => "new".toList
  | .symbol c => [c]

/-- Whether a token is a word. -/
def isWord : Token → Bool
  | .word _ => true
  | _ => false

/-- Whether a blank must separate two tokens: `new` and a word after it. -/
def gapNeeded (token next : Token) : Bool := token == .keyword && next.isWord

end Token

/-- Items written one after another with commas between them. -/
def commaList : List (List Token) → List Token
  | [] => []
  | first :: more => first ++ more.flatMap (.symbol ',' :: ·)

namespace Field

/-- A field is `name = path` or a path alone. -/
def tokens (field : Field) : List Token :=
  match field.name with
  | some name => [.word name.toList, .symbol '=', .word field.path.chars]
  | none => [.word field.path.chars]

/-- Whether the name of a field, if written, and its path are made of identifiers. -/
def valid (field : Field) : Bool := field.name.all isIdentifier && field.path.valid

end Field

namespace Binding

/-- A binding is `member = path`. -/
def tokens (binding : Binding) : List Token :=
  [.word binding.member.toList, .symbol '=', .word binding.path.chars]

/-- Whether the member and the path of a binding are made of identifiers. -/
def valid (binding : Binding) : Bool := isIdentifier binding.member && binding.path.valid

end Binding

/-- The arguments `(p₁, …, pₖ)` of a constructor call. -/
def argumentTokens (args : List MemberPath) : List Token :=
  .symbol '(' :: commaList (args.map fun arg => [.word arg.chars]) ++ [.symbol ')']

/-- The member bindings `{ M₁ = q₁, … }` after a constructor call. -/
def bindingTokens (bindings : List Binding) : List Token :=
  .symbol '\x7b' :: commaList (bindings.map Binding.tokens) ++ [.symbol '\x7d']

namespace Term

/-- The tokens after `new` in a construction. `parens` says whether a member initialisation
without constructor arguments writes the empty `()`. -/
def bodyTokens (parens : Bool) : Term → List Token
  | .path _ => []
  | .anonymous fields =>
    .symbol '\x7b' :: commaList (fields.map Field.tokens) ++ [.symbol '\x7d']
  | .construct typeName args => .word typeName.toList :: argumentTokens args
  | .memberInit typeName ctorArgs bindings =>
    .word typeName.toList ::
      ((if parens || !ctorArgs.isEmpty then argumentTokens ctorArgs else []) ++ bindingTokens bindings)

/-- The tokens of a projection: a path is one word, and a construction is `new` and its body. -/
def tokens (parens : Bool) (term : Term) : List Token :=
  match term with
  | .path single => [.word single.chars]
  | _ => .keyword :: term.bodyTokens parens

/-- Whether a projection can be written: its names are identifiers, an anonymous projection has
a field, and a path does not start with the keyword `new`. -/
def wellFormed : Term → Bool
  | .path single => single.valid && single.root != "new"
  | .anonymous fields => !fields.isEmpty && fields.all Field.valid
  | .construct typeName args => isIdentifier typeName && args.all MemberPath.valid
  | .memberInit typeName ctorArgs bindings =>
    isIdentifier typeName && ctorArgs.all MemberPath.valid && bindings.all Binding.valid

end Term

/-- The text of a written form: each token followed by its gap. -/
def writeTokens (written : List (Token × List Char)) : List Char :=
  written.flatMap fun (token, gap) => token.text ++ gap

/-- Whether the gaps of a written form are ASCII blanks, with one at least after `new` when a
word follows it. -/
def spaced : List (Token × List Char) → Bool
  | [] => true
  | (token, gap) :: more =>
    gap.all Text.isAsciiSpace && !(gap.isEmpty && more.head?.any (token.gapNeeded ·.1)) && spaced more

/-- Whether every gap of a written form is made of ASCII blanks. -/
def blankGaps (written : List (Token × List Char)) : Bool :=
  written.all fun entry => entry.2.all Text.isAsciiSpace

/-! ### Written forms -/

section Written

variable {written first second : List (Token × List Char)} {token : Token} {gap : List Char}

@[simp] theorem writeTokens_nil : writeTokens [] = [] := rfl

@[simp] theorem writeTokens_cons (more : List (Token × List Char)) :
    writeTokens ((token, gap) :: more) = token.text ++ gap ++ writeTokens more := by
  simp [writeTokens]

@[simp] theorem writeTokens_append : writeTokens (first ++ second) = writeTokens first ++ writeTokens second := by
  simp [writeTokens]

@[simp] theorem spaced_nil : spaced [] = true := rfl

/-- A gap after a token other than `new` only has to be blank. -/
theorem spaced_cons_of_ne_keyword (other : token ≠ .keyword) (more : List (Token × List Char)) :
    spaced ((token, gap) :: more) = (gap.all Text.isAsciiSpace && spaced more) := by
  simp [spaced, Token.gapNeeded, beq_eq_false_iff_ne.mpr other]

/-- Without `new`, a written form is spaced when its gaps are blank. -/
theorem spaced_eq_blankGaps (free : Token.keyword ∉ written.map Prod.fst) :
    spaced written = blankGaps written := by
  induction written with
  | nil => rfl
  | cons entry more ih =>
    obtain ⟨token, gap⟩ := entry
    simp only [List.map_cons, List.mem_cons, not_or] at free
    rw [spaced_cons_of_ne_keyword (Ne.symm free.1), ih free.2]
    simp [blankGaps]

@[simp] theorem blankGaps_nil : blankGaps [] = true := rfl

@[simp] theorem blankGaps_cons (more : List (Token × List Char)) :
    blankGaps ((token, gap) :: more) = (gap.all Text.isAsciiSpace && blankGaps more) := by
  simp [blankGaps]

@[simp] theorem blankGaps_append : blankGaps (first ++ second) = (blankGaps first && blankGaps second) := by
  simp [blankGaps]

/-- Splits a written form along its tokens. -/
theorem written_cons {tokens : List Token} (listed : written.map Prod.fst = token :: tokens) :
    ∃ gap more, written = (token, gap) :: more ∧ more.map Prod.fst = tokens := by
  obtain ⟨⟨token', gap⟩, more, rfl, same, rest⟩ := List.map_eq_cons_iff.mp listed
  cases same
  exact ⟨gap, more, rfl, rest⟩

/-- Widening the gap after the last token keeps a form spaced. -/
theorem spaced_widen_last {extra : List Char} (blank : extra.all Text.isAsciiSpace = true) :
    ∀ {written : List (Token × List Char)}, spaced (written ++ [(token, gap)]) = true →
      spaced (written ++ [(token, gap ++ extra)]) = true
  | [], inside => by simp_all [spaced]
  | (token', gap') :: more, inside => by
    have rest := spaced_widen_last blank (by
      simp only [List.cons_append, spaced, Bool.and_eq_true] at inside
      exact inside.2)
    have next : (more ++ [(token, gap ++ extra)]).head?.any (token'.gapNeeded ·.1) =
        (more ++ [(token, gap)]).head?.any (token'.gapNeeded ·.1) := by
      cases more <;> rfl
    simp only [List.cons_append, spaced, Bool.and_eq_true] at inside ⊢
    rw [next]
    exact ⟨inside.1, rest⟩

/-- A written character belongs to a token or to a gap. -/
theorem mem_writeTokens {c : Char} (inside : c ∈ writeTokens written) :
    ∃ entry ∈ written, c ∈ entry.1.text ∨ c ∈ entry.2 := by
  simp only [writeTokens, List.mem_flatMap, List.mem_append] at inside
  obtain ⟨⟨token, gap⟩, listed, found⟩ := inside
  exact ⟨(token, gap), listed, found⟩

end Written

end FlatProjection.Projection
