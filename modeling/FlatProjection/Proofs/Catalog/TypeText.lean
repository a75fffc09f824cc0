import FlatProjection.Catalog.Basic
/-
A type read from text is declarable, and its written form reads back to it.
-/

namespace FlatProjection.Catalog

open Text

/-- The builtin keywords in lower case; `string` is a second name for text. -/
def builtinWords : List String := ["int", "float", "bool", "text", "string", "object"]

/-- A name that reads as an entity reference: no blanks around it, no `set<` or `list<` lead
and no builtin keyword, in any ASCII case. -/
def isEntityWord (name : String) : Bool :=
  trimChars name.toList == name.toList &&
    !startsWithAsciiFold ['s', 'e', 't', '<'] name.toList &&
    !startsWithAsciiFold ['l', 'i', 's', 't', '<'] name.toList &&
    !builtinWords.contains (String.ofList (name.toList.map asciiLower))

/-- What trimmed type text reads as when no collection lead starts it: a builtin keyword in any
ASCII case, else the name of a declared entity. -/
def readWord (names : List String) (trimmed : List Char) : Option ValueType :=
  let word := String.ofList (trimmed.map asciiLower)
  if word == "int" then some .int
  else if word == "float" then some .float
  else if word == "bool" then some .bool
  else if word == "text" || word == "string" then some .text
  else if word == "object" then some .object
  else
    let name := String.ofList trimmed
    if names.contains name then some (.entity name) else none

end FlatProjection.Catalog

namespace FlatProjection.ValueType

open Catalog

/-- A type a catalog over the entity names `names` can declare: a builtin, an entity of `names`
whose name reads as itself, or a set or list of such types. -/
def declarable (names : List String) : ValueType → Bool
  | .int | .float | .bool | .text | .object => true
  | .entity name => names.contains name && isEntityWord name
  | .collection _ element => declarable names element
  | _ => false

end FlatProjection.ValueType

namespace FlatProjection.Catalog

open Text

/-! ### Trimming -/

section Trim

variable {chars : List Char}

theorem dropWhile_isBlank_of_head (start : ∀ c ∈ chars.head?, isBlank c = false) :
    chars.dropWhile isBlank = chars := by
  cases chars with
  | nil => rfl
  | cons c more => simp [start c rfl]

theorem head_dropWhile_isBlank (chars : List Char) : ∀ c ∈ (chars.dropWhile isBlank).head?, isBlank c = false := by
  intro c first
  have stop := List.head?_dropWhile_not isBlank chars
  rw [first] at stop
  exact stop

/-- Text that neither starts nor ends with a blank is its own trim. -/
theorem trimChars_of_ends (start : ∀ c ∈ chars.head?, isBlank c = false)
    (finish : ∀ c ∈ chars.getLast?, isBlank c = false) : trimChars chars = chars := by
  have reversed : ∀ c ∈ chars.reverse.head?, isBlank c = false := by simpa using finish
  rw [trimChars, dropWhile_isBlank_of_head start, dropWhile_isBlank_of_head reversed, List.reverse_reverse]

/-- Dropping a blank start keeps the last character of text that is not all blank. -/
theorem getLast?_dropWhile_isBlank (present : chars.dropWhile isBlank ≠ []) :
    (chars.dropWhile isBlank).getLast? = chars.getLast? := by
  rw [List.getLast?_eq_some_getLast present, (List.dropWhile_suffix isBlank).getLast present,
    List.getLast?_eq_some_getLast ((List.dropWhile_suffix isBlank).ne_nil present)]

/-- Trimmed text starts and ends with no blank, so trimming it again changes nothing. -/
theorem trimChars_trimChars (chars : List Char) : trimChars (trimChars chars) = trimChars chars := by
  apply trimChars_of_ends
  · -- the first character left is the last one of the blank-free start of the text
    intro c first
    simp only [trimChars, List.head?_reverse] at first
    have present : (chars.dropWhile isBlank).reverse.dropWhile isBlank ≠ [] := by
      rintro empty
      simp [empty] at first
    rw [getLast?_dropWhile_isBlank present, List.getLast?_reverse] at first
    exact head_dropWhile_isBlank chars c first
  · intro c last
    simp only [trimChars, List.getLast?_reverse] at last
    exact head_dropWhile_isBlank _ c last

end Trim

/-! ### The three readings of type text -/

section Readings

variable {names : List String} {chars : List Char}

/-- After a `set<` lead the text must close with `>`; what stands between is the element. -/
theorem parseTypeChars_of_setLead (lead : startsWithAsciiFold ['s', 'e', 't', '<'] (trimChars chars) = true) :
    parseTypeChars names chars =
      if ((trimChars chars).drop 4).getLast? = some '>' then
        (parseTypeChars names ((trimChars chars).drop 4).dropLast).map (.collection .set)
      else none := by
  rw [parseTypeChars]
  by_cases last : ((trimChars chars).drop 4).getLast? = some '>'
  · simp [lead, last]
  · simp [lead, last]

/-- A `list<` lead is tried only when no `set<` lead matches. -/
theorem parseTypeChars_of_listLead (noSet : startsWithAsciiFold ['s', 'e', 't', '<'] (trimChars chars) = false)
    (lead : startsWithAsciiFold ['l', 'i', 's', 't', '<'] (trimChars chars) = true) :
    parseTypeChars names chars =
      if ((trimChars chars).drop 5).getLast? = some '>' then
        (parseTypeChars names ((trimChars chars).drop 5).dropLast).map (.collection .list)
      else none := by
  rw [parseTypeChars]
  by_cases last : ((trimChars chars).drop 5).getLast? = some '>'
  · simp [lead, noSet, last]
  · simp [lead, noSet, last]

theorem parseTypeChars_of_word (noSet : startsWithAsciiFold ['s', 'e', 't', '<'] (trimChars chars) = false)
    (noList : startsWithAsciiFold ['l', 'i', 's', 't', '<'] (trimChars chars) = false) :
    parseTypeChars names chars = readWord names (trimChars chars) := by
  rw [parseTypeChars]
  simp only [noSet, noList]
  rfl

/-- Text with no blanks around it and no collection lead reads as a word. -/
theorem parseTypeChars_of_plain (trimmed : trimChars chars = chars)
    (noSet : startsWithAsciiFold ['s', 'e', 't', '<'] chars = false)
    (noList : startsWithAsciiFold ['l', 'i', 's', 't', '<'] chars = false) :
    parseTypeChars names chars = readWord names chars := by
  rw [parseTypeChars_of_word (by rw [trimmed]; exact noSet) (by rw [trimmed]; exact noList), trimmed]

/-- The element text of a collection is shorter than the whole text. -/
theorem length_collectionInner_lt {lead : List Char} (present : 0 < lead.length)
    (led : startsWithAsciiFold lead (trimChars chars) = true) :
    (((trimChars chars).drop lead.length).dropLast).length < chars.length := by
  have long : lead.length ≤ (trimChars chars).length := by
    simp only [startsWithAsciiFold, Bool.and_eq_true, decide_eq_true_eq] at led
    exact led.1
  have trimmed := trimChars_length_le chars
  simp only [List.length_dropLast, List.length_drop]
  omega

/-- A closed collection reads as a collection of what its element text reads as. -/
theorem exists_of_closed_eq_some {kind : CollectionKind} {inner : List Char} {ty : ValueType}
    (read : (if inner.getLast? = some '>' then (parseTypeChars names inner.dropLast).map (.collection kind)
      else none) = some ty) :
    ∃ element, ty = .collection kind element ∧ parseTypeChars names inner.dropLast = some element := by
  split at read
  · obtain ⟨element, readElement, rfl⟩ := Option.map_eq_some_iff.mp read
    exact ⟨element, rfl, readElement⟩
  · cases read

/-- A word reads as a builtin or as a declared entity whose name reads as itself. -/
theorem declarable_of_readWord {ty : ValueType}
    (noSet : startsWithAsciiFold ['s', 'e', 't', '<'] (trimChars chars) = false)
    (noList : startsWithAsciiFold ['l', 'i', 's', 't', '<'] (trimChars chars) = false)
    (read : readWord names (trimChars chars) = some ty) : ty.declarable names = true := by
  simp only [readWord] at read
  split at read
  · cases read; rfl
  split at read
  · cases read; rfl
  split at read
  · cases read; rfl
  split at read
  · cases read; rfl
  split at read
  · cases read; rfl
  split at read
  · -- the trimmed text itself is the entity's name
    cases read
    rename_i notInt notFloat notBool notText notObject declared
    simp only [Bool.or_eq_true, beq_iff_eq, not_or] at notInt notFloat notBool notText notObject
    have member : String.ofList (trimChars chars) ∈ names := List.contains_iff_mem.mp declared
    simp [ValueType.declarable, member, isEntityWord, String.toList_ofList, trimChars_trimChars, noSet,
      noList, builtinWords, notInt, notFloat, notBool, notText.1, notText.2, notObject]
  · cases read

end Readings

/-! ### Reading text and reading the written form -/

section RoundTrip

variable {names : List String}

/-- A type read from text is declarable: every entity it names is declared and reads as itself. -/
theorem declarable_of_parseTypeChars :
    ∀ {chars : List Char} {ty : ValueType}, parseTypeChars names chars = some ty → ty.declarable names = true
  | chars, ty, read => by
    cases setLead : startsWithAsciiFold ['s', 'e', 't', '<'] (trimChars chars)
    · cases listLead : startsWithAsciiFold ['l', 'i', 's', 't', '<'] (trimChars chars)
      · rw [parseTypeChars_of_word setLead listLead] at read
        exact declarable_of_readWord setLead listLead read
      · rw [parseTypeChars_of_listLead setLead listLead] at read
        obtain ⟨element, rfl, readElement⟩ := exists_of_closed_eq_some read
        have shorter : (trimChars chars).length - 5 - 1 < chars.length := by
          simpa using length_collectionInner_lt (by decide) listLead
        have elementDeclarable := declarable_of_parseTypeChars readElement
        exact elementDeclarable
    · rw [parseTypeChars_of_setLead setLead] at read
      obtain ⟨element, rfl, readElement⟩ := exists_of_closed_eq_some read
      have shorter : (trimChars chars).length - 4 - 1 < chars.length := by
        simpa using length_collectionInner_lt (by decide) setLead
      have elementDeclarable := declarable_of_parseTypeChars readElement
      exact elementDeclarable
termination_by chars => chars.length

/-- The written form of a collection: the kind's name, then the element between `<` and `>`. -/
theorem render_collection_toList (kind : CollectionKind) (element : ValueType) :
    (ValueType.render (.collection kind element)).toList =
      kind.name.toList ++ '<' :: (element.render.toList ++ ['>']) := by
  simp [ValueType.render]

/-- Written text that starts with a letter and ends with `>` is its own trim. -/
theorem trimChars_written {first : Char} {middle : List Char} (letter : isBlank first = false) :
    trimChars (first :: (middle ++ ['>'])) = first :: (middle ++ ['>']) :=
  trimChars_of_ends (by simpa using letter) (by
    intro c last
    rw [← List.cons_append, List.getLast?_concat, Option.mem_def, Option.some.injEq] at last
    subst last
    decide)

theorem parseType_render_set {element : ValueType} (inner : parseType names element.render = some element) :
    parseType names (ValueType.render (.collection .set element)) = some (.collection .set element) := by
  have written : (ValueType.render (.collection .set element)).toList =
      'S' :: (('e' :: 't' :: '<' :: element.render.toList) ++ ['>']) := by
    simp [render_collection_toList, CollectionKind.name]
  have lead : startsWithAsciiFold ['s', 'e', 't', '<']
      ('S' :: (('e' :: 't' :: '<' :: element.render.toList) ++ ['>'])) = true := by
    simp [startsWithAsciiFold, asciiLower]
  rw [parseType, written, parseTypeChars_of_setLead (by rw [trimChars_written (by decide)]; exact lead),
    trimChars_written (by decide)]
  rw [parseType] at inner
  simpa using inner

theorem parseType_render_list {element : ValueType} (inner : parseType names element.render = some element) :
    parseType names (ValueType.render (.collection .list element)) = some (.collection .list element) := by
  have written : (ValueType.render (.collection .list element)).toList =
      'L' :: (('i' :: 's' :: 't' :: '<' :: element.render.toList) ++ ['>']) := by
    simp [render_collection_toList, CollectionKind.name]
  -- a `List<` text starts with `l`, so the `set<` lead cannot match it
  have noSet : startsWithAsciiFold ['s', 'e', 't', '<']
      ('L' :: (('i' :: 's' :: 't' :: '<' :: element.render.toList) ++ ['>'])) = false := by
    simp [startsWithAsciiFold, asciiLower]
  have lead : startsWithAsciiFold ['l', 'i', 's', 't', '<']
      ('L' :: (('i' :: 's' :: 't' :: '<' :: element.render.toList) ++ ['>'])) = true := by
    simp [startsWithAsciiFold, asciiLower]
  rw [parseType, written, parseTypeChars_of_listLead (by rw [trimChars_written (by decide)]; exact noSet)
    (by rw [trimChars_written (by decide)]; exact lead), trimChars_written (by decide)]
  rw [parseType] at inner
  simpa using inner

/-- A declared entity whose name reads as itself is read back from its name. -/
theorem parseType_entity {name : String} (declared : names.contains name = true)
    (word : isEntityWord name = true) : parseType names name = some (.entity name) := by
  simp only [isEntityWord, Bool.and_eq_true, beq_iff_eq, Bool.not_eq_true'] at word
  obtain ⟨⟨⟨trimmed, noSet⟩, noList⟩, notBuiltin⟩ := word
  have notBuiltin' : String.ofList (name.toList.map asciiLower) ∉ builtinWords := by
    simpa using notBuiltin
  simp only [builtinWords, List.mem_cons, List.not_mem_nil, or_false, not_or] at notBuiltin'
  have member : name ∈ names := List.contains_iff_mem.mp declared
  rw [parseType, parseTypeChars_of_plain trimmed noSet noList]
  simp [readWord, notBuiltin', member]

/-- The written form of a declarable type reads back as the type. -/
theorem parseType_render_of_declarable : ∀ (ty : ValueType), ty.declarable names = true →
    parseType names ty.render = some ty
  | .int, _ | .float, _ | .bool, _ | .text, _ | .object, _ => by
    simp (disch := decide) [parseType, ValueType.render, parseTypeChars_of_plain, readWord, asciiLower]
  | .entity name, declarable => by
    simp only [ValueType.declarable, Bool.and_eq_true] at declarable
    exact parseType_entity declarable.1 declarable.2
  | .collection .set element, declarable =>
    parseType_render_set (parseType_render_of_declarable element declarable)
  | .collection .list element, declarable =>
    parseType_render_list (parseType_render_of_declarable element declarable)
  | .sequence _, declarable | .record .., declarable | .tuple _, declarable | .grouping .., declarable => by
    simp [ValueType.declarable] at declarable

/-- A type read from text is declarable and its written form reads back to it. -/
theorem parseType_reads_back_render {text : String} {ty : ValueType} (read : parseType names text = some ty) :
    ty.declarable names = true ∧ parseType names ty.render = some ty := by
  have declared : ty.declarable names = true := declarable_of_parseTypeChars read
  exact ⟨declared, parseType_render_of_declarable ty declared⟩

/-- Mixed case, blanks inside the brackets and around the text all read as `List<Set<Order>>`. -/
theorem parseType_reads_back_nested :
    parseType ["Order"] " LIST< set<Order > >" = some (.collection .list (.collection .set (.entity "Order"))) ∧
      (ValueType.collection .list (.collection .set (.entity "Order"))).declarable ["Order"] = true ∧
      parseType ["Order"] (ValueType.collection .list (.collection .set (.entity "Order"))).render =
        some (.collection .list (.collection .set (.entity "Order"))) := by
  have read : parseType ["Order"] " LIST< set<Order > >" =
      some (.collection .list (.collection .set (.entity "Order"))) := by
    with_unfolding_all rfl
  exact ⟨read, parseType_reads_back_render read⟩

/-- The types read from text are exactly the declarable ones. -/
theorem exists_parseType_iff_declarable {ty : ValueType} :
    (∃ text, parseType names text = some ty) ↔ ty.declarable names = true := by
  constructor
  · rintro ⟨text, read⟩
    exact declarable_of_parseTypeChars read
  · intro declared
    exact ⟨ty.render, parseType_render_of_declarable ty declared⟩

end RoundTrip

end FlatProjection.Catalog
