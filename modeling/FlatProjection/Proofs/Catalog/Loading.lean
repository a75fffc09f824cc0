import FlatProjection.Catalog.Basic
import FlatProjection.Proofs.Json.Decoding
import Mathlib.Data.List.Forall2
import Mathlib.Data.List.Nodup
import Mathlib.Data.List.TakeWhile
/-
Loading a catalog answers exactly as its two passes decide, and a loaded catalog answers
every lookup as the definitions say.
-/

namespace FlatProjection

namespace Catalog

/-! ### The rounds of the two passes -/

/-- One round of the first pass: a name seen before stops loading, any other is added. -/
def nameRound (definition : EntityDefinition) (names : List String) :
    Except CatalogError (ForInStep (List String)) :=
  if names.contains definition.name then .error (.duplicateEntity definition.name)
  else .ok (.yield (names ++ [definition.name]))

/-- One round over an entity's properties: the type text must read against the names. -/
def propertyRound (names : List String) (entity : String) (entry : String × String)
    (properties : List (String × ValueType)) : Except CatalogError (ForInStep (List (String × ValueType))) :=
  match parseType names entry.2 with
  | some ty => .ok (.yield (properties ++ [(entry.1, ty)]))
  | none => .error (.invalidPropertyType entity entry.1 entry.2)

/-- One round of the second pass: an entity with all of its properties resolved. -/
def entityRound (names : List String) (definition : EntityDefinition) (entities : List EntityType) :
    Except CatalogError (ForInStep (List EntityType)) := do
  let properties ← forIn definition.properties [] (propertyRound names definition.name)
  return .yield (entities ++ [⟨definition.name, properties⟩])

theorem ofDefinitions_eq (definitions : List EntityDefinition) :
    EntityCatalog.ofDefinitions definitions = do
      let names ← forIn definitions [] nameRound
      let entities ← forIn definitions [] (entityRound names)
      return ⟨entities⟩ := rfl

/-! ### Specification -/

/-- Resolved properties: the same names in the same order, each at the type its text reads as. -/
def Resolved (names : List String) : List (String × String) → List (String × ValueType) → Prop :=
  List.Forall₂ fun entry resolved => resolved.1 = entry.1 ∧ parseType names entry.2 = some resolved.2

/-- The message of an unknown property: the entity, then the property followed by the names of
the properties the entity has, in sorted order, unless it has none. -/
def unknownPropertyText (entity property : String) (sorted : List String) : String :=
  "Entity `" ++ entity ++ "` has no property `" ++ property ++
    (if sorted = [] then "" else " (known: " ++ ", ".intercalate sorted ++ ")") ++ "`"

/-- What a loaded catalog answers, read off the definitions. -/
structure Answers (definitions : List EntityDefinition) (catalog : EntityCatalog) : Prop where
  size : catalog.size = definitions.length
  declared : ∀ definition ∈ definitions, ∀ property typeName,
    definition.properties.lookup property = some typeName →
      ∃ ty, parseType (definitions.map (·.name)) typeName = some ty ∧
        catalog.propertyType definition.name property = .ok ty
  undeclared : ∀ definition ∈ definitions, ∀ property, definition.properties.lookup property = none →
    catalog.propertyType definition.name property =
        .error (.unknownProperty definition.name property (definition.properties.map (·.1))) ∧
      ∃ sorted, sorted.Perm (definition.properties.map (·.1)) ∧ sorted.Pairwise (· ≤ ·) ∧
        (CatalogError.unknownProperty definition.name property (definition.properties.map (·.1))).message =
          unknownPropertyText definition.name property sorted
  unknownEntity : ∀ entity property, entity ∉ definitions.map (·.name) →
    catalog.propertyType entity property = .error (.unknownEntity entity)

/-- What loading answers: the first repeated name, else the first unreadable type text, else a
catalog. -/
def LoadOutcome (definitions : List EntityDefinition) (result : Except CatalogError EntityCatalog) : Prop :=
  if (definitions.map (·.name)).Nodup then
    if ∀ definition ∈ definitions, ∀ entry ∈ definition.properties,
        (parseType (definitions.map (·.name)) entry.2).isSome then
      ∃ catalog, result = .ok catalog ∧ Answers definitions catalog
    else
      ∃ before definition after property typeName, definitions = before ++ definition :: after ∧
        (∀ earlier ∈ before, ∀ entry ∈ earlier.properties, (parseType (definitions.map (·.name)) entry.2).isSome) ∧
        (property, typeName) ∈ definition.properties ∧ parseType (definitions.map (·.name)) typeName = none ∧
        result = .error (.invalidPropertyType definition.name property typeName)
  else
    ∃ before definition after, definitions = before ++ definition :: after ∧ (before.map (·.name)).Nodup ∧
      definition.name ∈ before.map (·.name) ∧ result = .error (.duplicateEntity definition.name)

/-! ### First failures -/

/-- A list whose items do not all pass splits at its first failing item. -/
theorem exists_first_failure {α : Type} {p : α → Bool} {items : List α} (failing : ¬ ∀ item ∈ items, p item) :
    ∃ before item after, items = before ++ item :: after ∧ (∀ earlier ∈ before, p earlier) ∧ p item = false := by
  cases rest : items.dropWhile p with
  | nil =>
    exact absurd (List.dropWhile_eq_nil_iff.mp rest) failing
  | cons item after =>
    have stops := List.head?_dropWhile_not p items
    rw [rest] at stops
    refine ⟨items.takeWhile p, item, after, ?_, fun earlier member => List.mem_takeWhile_imp member, by simpa using stops⟩
    rw [← rest, List.takeWhile_append_dropWhile]

/-! ### The first pass -/

/-- The first pass lists every name when the names are distinct, and otherwise stops at the
first name declared a second time. -/
theorem forIn_nameRound : ∀ (definitions : List EntityDefinition) {seen : List String}, seen.Nodup →
    ((seen ++ definitions.map (·.name)).Nodup ∧
      forIn definitions seen nameRound = .ok (seen ++ definitions.map (·.name))) ∨
    ∃ before definition after, definitions = before ++ definition :: after ∧
      (seen ++ before.map (·.name)).Nodup ∧ definition.name ∈ seen ++ before.map (·.name) ∧
      forIn definitions seen nameRound = .error (.duplicateEntity definition.name)
  | [], seen, distinct => .inl ⟨by simpa using distinct, by simp [pure, Except.pure]⟩
  | definition :: rest, seen, distinct => by
    rw [List.forIn_cons]
    by_cases known : definition.name ∈ seen
    · -- the name was declared before: loading stops at this definition
      refine .inr ⟨[], definition, rest, rfl, by simpa using distinct, by simpa using known, ?_⟩
      simp [nameRound, known, bind, Except.bind]
    · have added : (seen ++ [definition.name]).Nodup := by
        rw [List.nodup_append]
        exact ⟨distinct, List.nodup_singleton _, fun a member b single same => by simp_all⟩
      have round : nameRound definition seen = .ok (.yield (seen ++ [definition.name])) := by
        simp [nameRound, known]
      rw [round, Except.ok_bind]
      rcases forIn_nameRound rest added with ⟨allDistinct, finished⟩ | ⟨before, repeated, after, split, distinctBefore, member, stopped⟩
      · left
        simp only [List.append_assoc, List.singleton_append] at allDistinct finished
        simpa using ⟨allDistinct, finished⟩
      · right
        refine ⟨definition :: before, repeated, after, by rw [split]; rfl, ?_, ?_, stopped⟩
        · simpa using distinctBefore
        · simpa using member

/-! ### The second pass -/

section Resolution

variable (names : List String)

/-- The properties of an entity whose type texts all read resolve in order. -/
theorem forIn_propertyRound_of_all (entity : String) : ∀ (entries : List (String × String))
    (done : List (String × ValueType)), (∀ entry ∈ entries, (parseType names entry.2).isSome) →
    ∃ resolved, Resolved names entries resolved ∧
      forIn entries done (propertyRound names entity) = .ok (done ++ resolved)
  | [], done, _ => ⟨[], .nil, by simp [pure, Except.pure]⟩
  | entry :: rest, done, reads => by
    obtain ⟨ty, read⟩ := Option.isSome_iff_exists.mp (reads entry (by simp))
    obtain ⟨resolved, matched, finished⟩ :=
      forIn_propertyRound_of_all entity rest (done ++ [(entry.1, ty)]) fun other member => reads other (by simp [member])
    refine ⟨(entry.1, ty) :: resolved, .cons ⟨rfl, read⟩ matched, ?_⟩
    rw [List.forIn_cons, propertyRound, read]
    simpa using finished

/-- The properties of an entity stop at the first type text that does not read. -/
theorem forIn_propertyRound_of_first (entity property typeName : String) :
    ∀ (before after : List (String × String)) (done : List (String × ValueType)),
    (∀ entry ∈ before, (parseType names entry.2).isSome) → parseType names typeName = none →
    forIn (before ++ (property, typeName) :: after) done (propertyRound names entity) =
      .error (.invalidPropertyType entity property typeName)
  | [], after, done, _, unread => by
    rw [List.nil_append, List.forIn_cons, propertyRound]
    simp [unread, bind, Except.bind]
  | entry :: before, after, done, reads, unread => by
    obtain ⟨ty, read⟩ := Option.isSome_iff_exists.mp (reads entry (by simp))
    rw [List.cons_append, List.forIn_cons, propertyRound, read]
    simpa using forIn_propertyRound_of_first entity property typeName before after (done ++ [(entry.1, ty)])
      (fun other member => reads other (by simp [member])) unread

/-- Resolved entities: the same names in the same order, each with its properties resolved. -/
def ResolvedEntities : List EntityDefinition → List EntityType → Prop :=
  List.Forall₂ fun definition entity => entity.name = definition.name ∧
    Resolved names definition.properties entity.properties

/-- The second pass resolves every entity when every type text reads. -/
theorem forIn_entityRound_of_all : ∀ (definitions : List EntityDefinition) (done : List EntityType),
    (∀ definition ∈ definitions, ∀ entry ∈ definition.properties, (parseType names entry.2).isSome) →
    ∃ entities, ResolvedEntities names definitions entities ∧
      forIn definitions done (entityRound names) = .ok (done ++ entities)
  | [], done, _ => ⟨[], .nil, by simp [pure, Except.pure]⟩
  | definition :: rest, done, reads => by
    obtain ⟨properties, matched, resolvedHere⟩ :=
      forIn_propertyRound_of_all names definition.name definition.properties [] (reads definition (by simp))
    obtain ⟨entities, matchedRest, finished⟩ :=
      forIn_entityRound_of_all rest (done ++ [⟨definition.name, properties⟩])
        fun other member => reads other (by simp [member])
    refine ⟨⟨definition.name, properties⟩ :: entities, .cons ⟨rfl, matched⟩ matchedRest, ?_⟩
    rw [List.forIn_cons, entityRound, resolvedHere]
    simpa using finished

/-- The second pass stops at the first entity with a type text that does not read. -/
theorem forIn_entityRound_of_first (definition : EntityDefinition) (property typeName : String)
    (member : (property, typeName) ∈ definition.properties) (unread : parseType names typeName = none) :
    ∃ firstProperty firstTypeName, (firstProperty, firstTypeName) ∈ definition.properties ∧
      parseType names firstTypeName = none ∧
    ∀ (before after : List EntityDefinition) (done : List EntityType),
      (∀ earlier ∈ before, ∀ entry ∈ earlier.properties, (parseType names entry.2).isSome) →
      forIn (before ++ definition :: after) done (entityRound names) =
        .error (.invalidPropertyType definition.name firstProperty firstTypeName) := by
  have failing : ¬ ∀ entry ∈ definition.properties, (parseType names entry.2).isSome := by
    intro all
    simpa [unread] using all _ member
  obtain ⟨entries, ⟨firstProperty, firstTypeName⟩, rest, split, reads, stops⟩ := exists_first_failure failing
  have firstUnread : parseType names firstTypeName = none := by simpa using stops
  refine ⟨firstProperty, firstTypeName, by rw [split]; simp, firstUnread, ?_⟩
  intro before
  induction before with
  | nil =>
    intro after done _
    rw [List.nil_append, List.forIn_cons, entityRound]
    conv => lhs; rw [split]
    rw [forIn_propertyRound_of_first names definition.name firstProperty firstTypeName entries rest [] reads firstUnread]
    rfl
  | cons earlier before ih =>
    intro after done readsBefore
    obtain ⟨properties, -, resolvedHere⟩ :=
      forIn_propertyRound_of_all names earlier.name earlier.properties [] (readsBefore earlier (by simp))
    rw [List.cons_append, List.forIn_cons, entityRound, resolvedHere]
    simpa using ih after _ fun other member => readsBefore other (by simp [member])

/-- When some type text does not read, the second pass stops at the first entity that has one,
at the first such property of that entity. -/
theorem forIn_entityRound_of_failing {definitions : List EntityDefinition}
    (failing : ¬ ∀ definition ∈ definitions, ∀ entry ∈ definition.properties, (parseType names entry.2).isSome) :
    ∃ before definition after property typeName, definitions = before ++ definition :: after ∧
      (∀ earlier ∈ before, ∀ entry ∈ earlier.properties, (parseType names entry.2).isSome) ∧
      (property, typeName) ∈ definition.properties ∧ parseType names typeName = none ∧
      forIn definitions [] (entityRound names) = .error (.invalidPropertyType definition.name property typeName) := by
  obtain ⟨before, definition, after, split, reads, stops⟩ := exists_first_failure
    (p := fun definition : EntityDefinition => definition.properties.all fun entry => (parseType names entry.2).isSome)
    (by simpa [List.all_eq_true] using failing)
  have hasUnread : ¬ ∀ entry ∈ definition.properties, (parseType names entry.2).isSome := by
    simpa [List.all_eq_true] using stops
  obtain ⟨⟨property, typeName⟩, member, unread⟩ : ∃ entry ∈ definition.properties, parseType names entry.2 = none := by
    simpa using hasUnread
  have readsBefore : ∀ earlier ∈ before, ∀ entry ∈ earlier.properties, (parseType names entry.2).isSome :=
    fun earlier listed => by simpa [List.all_eq_true] using reads earlier listed
  obtain ⟨firstProperty, firstTypeName, firstMember, firstUnread, stopsAt⟩ :=
    forIn_entityRound_of_first names definition property typeName member unread
  refine ⟨before, definition, after, firstProperty, firstTypeName, split, readsBefore, firstMember, firstUnread, ?_⟩
  rw [split]
  exact stopsAt before after [] readsBefore

end Resolution

/-! ### Lookups in a loaded catalog -/

section Lookups

variable {names : List String}

/-- A resolved property list finds a property where the written list declares it. -/
theorem find?_of_resolved {entries : List (String × String)} {resolved : List (String × ValueType)}
    (matched : Resolved names entries resolved) (property : String) :
    match entries.lookup property with
    | some typeName => ∃ ty, parseType names typeName = some ty ∧ resolved.find? (·.1 == property) = some (property, ty)
    | none => resolved.find? (·.1 == property) = none := by
  induction matched with
  | nil => simp
  | @cons entry item entries resolved related _ ih =>
    obtain ⟨name, typeName⟩ := entry
    obtain ⟨itemName, ty⟩ := item
    obtain ⟨sameName, read⟩ := related
    simp only at sameName read
    rw [sameName]
    by_cases same : property = name
    · subst same
      simp [read]
    · have differs : (name == property) = false := by simpa using Ne.symm same
      have differs' : (property == name) = false := by simpa using same
      simpa [List.lookup_cons, differs, differs'] using ih

theorem map_fst_of_resolved {entries : List (String × String)} {resolved : List (String × ValueType)}
    (matched : Resolved names entries resolved) : resolved.map (·.1) = entries.map (·.1) := by
  induction matched with
  | nil => rfl
  | cons related _ ih => simp [ih, related.1]

/-- A catalog of resolved entities finds a declared entity at its resolved form. -/
theorem entity_of_resolvedEntities {definitions : List EntityDefinition} {entities : List EntityType}
    (matched : ResolvedEntities names definitions entities) (distinct : (definitions.map (·.name)).Nodup)
    {definition : EntityDefinition} (member : definition ∈ definitions) :
    ∃ entity, (EntityCatalog.mk entities).entity definition.name = .ok entity ∧ entity.name = definition.name ∧
      Resolved names definition.properties entity.properties := by
  induction matched with
  | nil => cases member
  | @cons first entity rest entities related _ ih =>
    simp only [List.map_cons, List.nodup_cons] at distinct
    rcases List.mem_cons.mp member with here | later
    · subst here
      refine ⟨entity, ?_, related⟩
      simp [EntityCatalog.entity, related.1]
    · -- an entity declared later has a name the first one does not have
      have apart : first.name ≠ definition.name := fun same =>
        distinct.1 (same ▸ List.mem_map_of_mem later)
      have differs : (first.name == definition.name) = false := by simpa using apart
      obtain ⟨found, located, rest⟩ := ih distinct.2 later
      refine ⟨found, ?_, rest⟩
      simp only [EntityCatalog.entity, List.find?_cons, related.1, differs] at located ⊢
      exact located

/-- A catalog of resolved entities has no entity of an undeclared name. -/
theorem entity_of_undeclared {definitions : List EntityDefinition} {entities : List EntityType}
    (matched : ResolvedEntities names definitions entities) {entity : String}
    (undeclared : entity ∉ definitions.map (·.name)) :
    (EntityCatalog.mk entities).entity entity = .error (.unknownEntity entity) := by
  induction matched with
  | nil => rfl
  | @cons first found rest entities related _ ih =>
    simp only [List.map_cons, List.mem_cons, not_or] at undeclared
    have differs : (found.name == entity) = false := by
      simpa [related.1] using Ne.symm undeclared.1
    have skipped := ih undeclared.2
    simp only [EntityCatalog.entity, List.find?_cons, differs] at skipped ⊢
    exact skipped

/-- The message of an unknown property lists the known properties sorted. -/
theorem message_unknownProperty (entity property : String) (known : List String) :
    (CatalogError.unknownProperty entity property known).message =
      unknownPropertyText entity property (known.mergeSort fun a b => decide (a ≤ b)) := by
  unfold CatalogError.message unknownPropertyText
  by_cases none : known = []
  · subst none
    simp only [List.mergeSort_nil, if_true, List.isEmpty_nil, String.append_empty]
    rfl
  · have some : (known.mergeSort fun a b => decide (a ≤ b)) ≠ [] := by
      simpa [← List.length_eq_zero_iff] using none
    simp only [none, some, List.isEmpty_iff, if_false]
    simp only [toString, String.append_assoc]

theorem pairwise_mergeSort_le (known : List String) :
    (known.mergeSort fun a b => decide (a ≤ b)).Pairwise (· ≤ ·) := by
  have sorted := @List.pairwise_mergeSort String (fun a b => decide (a ≤ b))
    (fun a b c first second => by simpa using String.le_trans (by simpa using first) (by simpa using second))
    (fun a b => by simpa using String.le_total a b) known
  exact sorted.imp fun related => by simpa using related

/-- A catalog of resolved entities answers every lookup as the definitions say. -/
theorem answers_of_resolvedEntities {definitions : List EntityDefinition} {entities : List EntityType}
    (matched : ResolvedEntities (definitions.map (·.name)) definitions entities)
    (distinct : (definitions.map (·.name)).Nodup) : Answers definitions ⟨entities⟩ where
  size := matched.length_eq.symm
  declared definition member property typeName declares := by
    obtain ⟨entity, found, -, resolved⟩ := entity_of_resolvedEntities matched distinct member
    have located := find?_of_resolved resolved property
    rw [declares] at located
    obtain ⟨ty, read, atProperty⟩ := located
    refine ⟨ty, read, ?_⟩
    simp [EntityCatalog.propertyType, found, atProperty]
  undeclared definition member property lacks := by
    obtain ⟨entity, found, named, resolved⟩ := entity_of_resolvedEntities matched distinct member
    have located := find?_of_resolved resolved property
    rw [lacks] at located
    refine ⟨?_, _, List.mergeSort_perm _ _, pairwise_mergeSort_le _, message_unknownProperty _ _ _⟩
    simp [EntityCatalog.propertyType, found, located, named, map_fst_of_resolved resolved]
  unknownEntity entity property undeclared := by
    simp [EntityCatalog.propertyType, entity_of_undeclared matched undeclared, bind, Except.bind]

end Lookups

/-! ### Loading -/

/-- Loading answers exactly as the definitions decide. -/
theorem ofDefinitions_outcome (definitions : List EntityDefinition) :
    LoadOutcome definitions (EntityCatalog.ofDefinitions definitions) := by
  rw [LoadOutcome, ofDefinitions_eq]
  rcases forIn_nameRound definitions List.nodup_nil with ⟨distinct, listed⟩ | ⟨before, definition, after, split, distinctBefore, repeated, stopped⟩
  · simp only [List.nil_append] at distinct listed
    rw [if_pos distinct, listed, Except.ok_bind]
    split
    · rename_i reads
      obtain ⟨entities, matched, resolved⟩ := forIn_entityRound_of_all _ definitions [] reads
      exact ⟨⟨entities⟩, by simp [resolved], answers_of_resolvedEntities matched distinct⟩
    · rename_i failing
      obtain ⟨before, definition, after, property, typeName, split, readsBefore, member, unread, stopped⟩ :=
        forIn_entityRound_of_failing _ failing
      refine ⟨before, definition, after, property, typeName, split, readsBefore, member, unread, ?_⟩
      rw [stopped]
      rfl
  · have repeats : ¬ (definitions.map (·.name)).Nodup := by
      rw [split, List.map_append, List.map_cons, List.nodup_append]
      rintro ⟨-, -, apart⟩
      exact apart _ (by simpa using repeated) _ List.mem_cons_self rfl
    rw [if_neg repeats]
    refine ⟨before, definition, after, split, by simpa using distinctBefore, by simpa using repeated, ?_⟩
    rw [stopped]
    rfl

end Catalog

end FlatProjection
