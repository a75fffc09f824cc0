import FlatProjection.Expr.Type
import FlatProjection.Text.Blank
/-
The entity catalog: entity types with the declared types of their properties, read from
type texts such as `int`, `Order` or `list<text>`.
-/

namespace FlatProjection.Catalog

open Text

/-- Why a catalog does not load, or a lookup in it fails. -/
inductive CatalogError where
  | unknownEntity (entity : String)
  /-- A property the entity lacks; `known` lists the properties it has. -/
  | unknownProperty (entity property : String) (known : List String)
  | duplicateEntity (entity : String)
  | invalidPropertyType (entity property typeName : String)
  | readFailure (error : String)
  | parseFailure (error : String)
deriving Inhabited

/-- The name of a catalog failure's kind. -/
def CatalogError.kind : CatalogError → String
  | .unknownEntity .. => "UnknownEntity"
  | .unknownProperty .. => "UnknownProperty"
  | .duplicateEntity .. => "DuplicateEntity"
  | .invalidPropertyType .. => "InvalidPropertyType"
  | .readFailure .. => "ConfigReadError"
  | .parseFailure .. => "ConfigParseError"

/-- The message of a catalog failure. An unknown property lists the known ones, sorted,
inside the quoted property name. -/
def CatalogError.message : CatalogError → String
  | .unknownEntity entity => s!"No entity definition found for `{entity}`"
  | .unknownProperty entity property known =>
    let shown := if known.isEmpty then property
      else property ++ " (known: " ++ ", ".intercalate (known.mergeSort (· ≤ ·)) ++ ")"
    s!"Entity `{entity}` has no property `{shown}`"
  | .duplicateEntity entity => s!"Entity `{entity}` is defined more than once"
  | .invalidPropertyType entity property typeName =>
    s!"Invalid type `{typeName}` for property `{entity}.{property}`"
  | .readFailure error => "Failed to read catalog file: " ++ error
  | .parseFailure error => "Failed to parse catalog: " ++ error

/-- An entity as written: its name and the type text of each property. -/
structure EntityDefinition where
  name : String
  properties : List (String × String)
deriving Inhabited

/-- A resolved entity type. -/
structure EntityType where
  name : String
  properties : List (String × ValueType)
deriving Inhabited

/-- The catalog: resolved entities, each name once. -/
structure EntityCatalog where
  entities : List EntityType
deriving Inhabited

/-- A character's ASCII lower case. -/
def asciiLower (c : Char) : Char :=
  if 'A' ≤ c && c ≤ 'Z' then Char.ofNat (c.toNat + 32) else c

/-- Whether `text` starts with `lead` (lower-case ASCII) regardless of ASCII case. -/
def startsWithAsciiFold (lead text : List Char) : Bool :=
  lead.length ≤ text.length && (text.take lead.length).map asciiLower == lead

/-- Reads a property type; `entities` are the names an entity reference may use. -/
def parseTypeChars (entities : List String) (chars : List Char) : Option ValueType :=
  let trimmed := trimChars chars
  let collection (kind : CollectionKind) (lead : List Char) : Option (Option ValueType) :=
    if startsWithAsciiFold lead trimmed then
      let inner := trimmed.drop lead.length
      if hlast : inner.getLast? = some '>' then
        have hne : inner ≠ [] := fun h => by simp [h] at hlast
        have hpos : 0 < inner.length := List.length_pos_iff.mpr hne
        have htrim := trimChars_length_le chars
        have _ : inner.dropLast.length < chars.length := by
          simp only [List.length_dropLast, inner, trimmed, List.length_drop] at hpos ⊢
          omega
        some ((parseTypeChars entities inner.dropLast).map (.collection kind))
      else some none
    else none
  match collection .set ['s', 'e', 't', '<'] with
  | some result => result
  | none =>
    match collection .list ['l', 'i', 's', 't', '<'] with
    | some result => result
    | none =>
      let word := String.ofList (trimmed.map asciiLower)
      if word == "int" then some .int
      else if word == "float" then some .float
      else if word == "bool" then some .bool
      else if word == "text" || word == "string" then some .text
      else if word == "object" then some .object
      else
        let name := String.ofList trimmed
        if entities.contains name then some (.entity name) else none
termination_by chars.length

/-- Reads a property type written as text. -/
def parseType (entities : List String) (text : String) : Option ValueType :=
  parseTypeChars entities text.toList

/-- Resolves the written entities: a name defined twice is an error, checked first over all
entities; then every property type must read, the first failure in entity order reported. -/
def EntityCatalog.ofDefinitions (definitions : List EntityDefinition) :
    Except CatalogError EntityCatalog := do
  let mut names : List String := []
  for definition in definitions do
    if names.contains definition.name then throw (.duplicateEntity definition.name)
    names := names ++ [definition.name]
  let mut entities : List EntityType := []
  for definition in definitions do
    let mut properties : List (String × ValueType) := []
    for (property, typeName) in definition.properties do
      match parseType names typeName with
      | some ty => properties := properties ++ [(property, ty)]
      | none => throw (.invalidPropertyType definition.name property typeName)
    entities := entities ++ [⟨definition.name, properties⟩]
  return ⟨entities⟩

namespace EntityCatalog

/-- The entity of a name. -/
def entity (catalog : EntityCatalog) (name : String) : Except CatalogError EntityType :=
  match catalog.entities.find? (·.name == name) with
  | some e => .ok e
  | none => .error (.unknownEntity name)

/-- Whether an entity of that name exists. -/
def contains (catalog : EntityCatalog) (name : String) : Bool :=
  catalog.entities.any (·.name == name)

/-- The number of entities. -/
def size (catalog : EntityCatalog) : Nat := catalog.entities.length

/-- The declared type of `entity.property`. -/
def propertyType (catalog : EntityCatalog) (entity property : String) :
    Except CatalogError ValueType := do
  let e ← catalog.entity entity
  match e.properties.find? (·.1 == property) with
  | some (_, ty) => .ok ty
  | none => .error (.unknownProperty e.name property (e.properties.map (·.1)))

end EntityCatalog

end FlatProjection.Catalog
