import FlatProjection.Config.Basic
import FlatProjection.Json.Decode
import FlatProjection.Yaml.Read
import FlatProjection.Host.Files
/-
Reading a configuration from JSON or YAML; absent fields take their defaults.
-/

namespace FlatProjection.Config

open Json Flatten

/-- The field names of a configuration, in declaration order. -/
def fieldNames : List String :=
  ["collection_policy", "input_parameter", "rows_parameter", "fallback_on_unsupported"]

/-- Decodes a policy from JSON: its name, or a single-member object naming it. -/
def CollectionPolicy.decode : Decoder CollectionPolicy := fun doc => do
  let (name, content) ← variantOf doc
  match CollectionPolicy.ofName? name with
  | some policy =>
    unitContent content
    return policy
  | none => throw (unknownVariant name CollectionPolicy.names)

/-- The JSON form of a policy: its name. -/
def CollectionPolicy.toJson (policy : CollectionPolicy) : Json := .str policy.name

/-- Builds a configuration from fields given by name, each defaulted when absent; the first
field, in written order, that fails to decode is the failure. -/
def buildConfig (members : List (String × Json)) : Except DecodeError FlattenConfig := do
  let policy := readField members "collection_policy" CollectionPolicy.decode
  let input := readField members "input_parameter" Decoder.string
  let rows := readField members "rows_parameter" Decoder.string
  let fallback := readField members "fallback_on_unsupported" Decoder.bool
  firstFailure members [("collection_policy", policy.failure?), ("input_parameter", input.failure?),
    ("rows_parameter", rows.failure?), ("fallback_on_unsupported", fallback.failure?)]
  let base : FlattenConfig := {}
  return {
    collectionPolicy := ← policy.orElse base.collectionPolicy
    inputParameter := ← input.orElse base.inputParameter
    rowsParameter := ← rows.orElse base.rowsParameter
    fallbackOnUnsupported := ← fallback.orElse base.fallbackOnUnsupported }

/-- Decodes a configuration from JSON: an object, or an array of up to four fields in
declared order, missing ones defaulted. -/
def FlattenConfig.decode : Decoder FlattenConfig
  | .obj members => buildConfig members
  | .arr items => do
    let config ← buildConfig (fieldNames.zip items)
    if fieldNames.length < items.length then
      throw (invalidLength items.length "fewer elements in array")
    return config
  | other => .error (invalidType (describe other) "struct RewriterConfig")

/-- The JSON form of a configuration. -/
def FlattenConfig.toJson (config : FlattenConfig) : Json :=
  .obj [("collection_policy", CollectionPolicy.toJson config.collectionPolicy),
    ("input_parameter", .str config.inputParameter), ("rows_parameter", .str config.rowsParameter),
    ("fallback_on_unsupported", .bool config.fallbackOnUnsupported)]

open Yaml in
/-- Reads a configuration from YAML. -/
def readConfig : ValueReader FlattenConfig :=
  readStruct "RewriterConfig" fieldNames
    (fun field fuel doc (config : FlattenConfig) path p =>
      match field with
      | 0 => do
        let (name, after) ← readUnitVariant CollectionPolicy.names fuel doc path p
        return ({ config with collectionPolicy := (CollectionPolicy.ofName? name).getD .declared }, after)
      | 1 => do
        let (text, after) ← readString fuel doc path p
        return ({ config with inputParameter := text }, after)
      | 2 => do
        let (text, after) ← readString fuel doc path p
        return ({ config with rowsParameter := text }, after)
      | _ => do
        let (b, after) ← readBool fuel doc path p
        return ({ config with fallbackOnUnsupported := b }, after))
    {} (fun config _ => pure config)

/-- Reads a configuration from the outcome of reading a YAML file, then checks it. -/
def FlattenConfig.ofYamlFile (file : Host.FileRead) : Except ConfigError FlattenConfig :=
  match file with
  | .error reason => .error (.parse "yaml_file" "file read failed" reason)
  | .ok text =>
    match Yaml.readYaml text readConfig with
    | .error e => .error (.parse "yaml_content" text e.text)
    | .ok config => config.validate

end FlatProjection.Config
