import FlatProjection.Catalog.Basic
import FlatProjection.Yaml.Read
import FlatProjection.Host.Files
/-
Loading a catalog from YAML: a mapping with an optional `entities` list of named entities.
-/

namespace FlatProjection.Catalog

open Yaml

/-- Reads one entity as written. -/
def readDefinition : ValueReader EntityDefinition :=
  readStruct "EntityDefinition" ["name", "properties"]
    (fun field fuel doc (state : Option String × List (String × String)) path p =>
      if field == 0 then do
        let (name, after) ← readString fuel doc path p
        return ((some name, state.2), after)
      else do
        let (properties, after) ← readStringMap readString fuel doc path p
        return ((state.1, properties), after))
    (none, [])
    (fun state _ =>
      match state.1 with
      | some name => pure ⟨name, state.2⟩
      | none => failure "missing field `name`")

/-- Reads a catalog file's entities. -/
def readDefinitions : ValueReader (List EntityDefinition) :=
  readStruct "EntityCatalogConfig" ["entities"]
    (fun _ fuel doc _ path p => readSeq readDefinition fuel doc path p)
    [] (fun entities _ => pure entities)

/-- Loads a catalog from YAML text. -/
def EntityCatalog.ofYaml (text : String) : Except CatalogError EntityCatalog :=
  match readYaml text readDefinitions with
  | .error e => .error (.parseFailure e.text)
  | .ok definitions => EntityCatalog.ofDefinitions definitions

/-- Loads a catalog from the outcome of reading the file at `path`. -/
def EntityCatalog.ofFile (path : String) (file : Host.FileRead) :
    Except CatalogError EntityCatalog :=
  match file with
  | .ok text => EntityCatalog.ofYaml text
  | .error reason => .error (.readFailure s!"{path}: {reason}")

end FlatProjection.Catalog
