import FlatProjection.Flatten.Policy
/-
The flattener's configuration: collection policy, placeholder names and fallback.
-/

namespace FlatProjection.Config

open Flatten

/-- The flattener's configuration. -/
structure FlattenConfig where
  collectionPolicy : CollectionPolicy := .declared
  inputParameter : String := "input"
  rowsParameter : String := "rows"
  fallbackOnUnsupported : Bool := true
deriving DecidableEq, Inhabited, Repr

/-- Why a configuration cannot be built: a value that does not read, or failed checks
given as field and message. -/
inductive ConfigError where
  | parse (field value source : String)
  | validation (failures : List (String × String))
deriving Inhabited

/-- The failed checks, one `field: message` line each, sorted. -/
def validationLines (failures : List (String × String)) : String :=
  "\n".intercalate ((failures.map fun (field, message) => field ++ ": " ++ message).mergeSort (· ≤ ·))

/-- The message of a configuration failure. -/
def ConfigError.message : ConfigError → String
  | .parse field value source => s!"Parse error for {field}: {value} - {source}"
  | .validation failures => "Validation error: " ++ validationLines failures

namespace FlattenConfig

/-- The failed checks: each name must be non-empty. -/
def check (config : FlattenConfig) : List (String × String) :=
  (if config.inputParameter.isEmpty then [("input_parameter", "Input parameter name cannot be empty")]
    else []) ++
  (if config.rowsParameter.isEmpty then [("rows_parameter", "Rows parameter name cannot be empty")]
    else [])

/-- The configuration, if it passes its checks. -/
def validate (config : FlattenConfig) : Except ConfigError FlattenConfig :=
  match config.check with
  | [] => .ok config
  | failures => .error (.validation failures)

/-- The text of a boolean that is not exactly `true` or `false`. -/
def boolMessage : String := "provided string was not `true` or `false`"

/-- The environment variables a configuration is read from. -/
def environmentVariables : List String :=
  ["REGROUP_COLLECTION_POLICY", "REGROUP_INPUT_PARAMETER", "REGROUP_ROWS_PARAMETER", "REGROUP_FALLBACK"]

/-- Reads the configuration from the `REGROUP_*` environment variables, given as a lookup. -/
def ofEnvironment (lookup : String → Option String) : Except ConfigError FlattenConfig := do
  let policyText := (lookup "REGROUP_COLLECTION_POLICY").getD "declared"
  let policy ← match CollectionPolicy.parse policyText with
    | .ok policy => pure policy
    | .error message => throw (.parse "REGROUP_COLLECTION_POLICY" policyText message)
  let fallbackText := (lookup "REGROUP_FALLBACK").getD "true"
  let fallback ← if fallbackText == "true" then pure true
    else if fallbackText == "false" then pure false
    else throw (.parse "REGROUP_FALLBACK" fallbackText boolMessage)
  validate {
    collectionPolicy := policy
    inputParameter := (lookup "REGROUP_INPUT_PARAMETER").getD "input"
    rowsParameter := (lookup "REGROUP_ROWS_PARAMETER").getD "rows"
    fallbackOnUnsupported := fallback }

end FlattenConfig

/-- The causes a configuration failure carries below its own message: the reason a value did
not read, or the failed checks. -/
def ConfigError.causes : ConfigError → List String
  | .parse _ _ source => [source]
  | .validation failures => [validationLines failures]

/-- Command-line overrides of a configuration. -/
structure Overrides where
  collectionPolicy : Option CollectionPolicy := none
  inputParameter : Option String := none
  noFallback : Bool := false
deriving Inhabited

/-- Applies command-line overrides, then checks the result. -/
def FlattenConfig.override (config : FlattenConfig) (overrides : Overrides) :
    Except ConfigError FlattenConfig :=
  FlattenConfig.validate { config with
    collectionPolicy := overrides.collectionPolicy.getD config.collectionPolicy
    inputParameter := overrides.inputParameter.getD config.inputParameter
    fallbackOnUnsupported := if overrides.noFallback then false else config.fallbackOnUnsupported }

end FlatProjection.Config
