import FlatProjection.CommandLine.Parse
import FlatProjection.Config.Load
import FlatProjection.Catalog.Load
import FlatProjection.Plan.Basic
import FlatProjection.Json.Reader
/-
Running `regroup` over any monad that provides files and environment variables.
-/

namespace FlatProjection.CommandLine

open Config Catalog Lowering Flatten Plan Json Number

/-- The files and environment variables a run reads. -/
structure Resources (m : Type → Type) where
  contentOf : String → m Host.FileRead
  envVar : String → m (Option String)

/-- A failed run: the message and its causes, outermost first. -/
structure Report where
  message : String
  causes : List String := []
deriving Inhabited

/-- A cause written under `Caused by:`: its first line after `first`, each later line after
`indent`. -/
def indentCause (first indent text : String) : String :=
  match text.splitOn "\n" with
  | [] => first
  | line :: more => first ++ line ++ String.join (more.map fun l => "\n" ++ indent ++ l)

/-- The text of a report. A single cause is indented by four; several are numbered from 0,
the number right-aligned in five columns. -/
def Report.render (r : Report) : String :=
  let causes := match r.causes with
    | [] => ""
    | [single] => "\n\nCaused by:\n" ++ indentCause "    " "    " single
    | several => "\n\nCaused by:" ++ String.join (several.zipIdx.map fun (cause, n) =>
        let number := toString n
        "\n" ++ indentCause (repeatChar ' ' (5 - number.length) ++ number ++ ": ") (repeatChar ' ' 7) cause)
  "Error: " ++ r.message ++ causes ++ "\n"

/-- A report that puts `context` above another. -/
def Report.within (context : String) (r : Report) : Report :=
  { message := context, causes := r.message :: r.causes }

/-- The report of a configuration failure. -/
def configReport (e : ConfigError) : Report := { message := e.message, causes := e.causes }

/-- The exit status and the texts a run writes to standard output and standard error. -/
structure Outcome where
  status : Nat
  stdout : String
  stderr : String
deriving Inhabited, Repr

/-- The outcome of a command line that stopped before running. -/
def Stop.outcome : Stop → Outcome
  | .showHelp c => ⟨0, c.helpPage, ""⟩
  | .showVersion => ⟨0, versionText, ""⟩
  | .helpAsError c => ⟨2, "", c.helpPage⟩
  | .usage e => ⟨2, "", e.render⟩

section Running

variable {m : Type → Type} [Monad m]

/-- Fails the run with `report` when `outcome` is a failure. -/
def orReport {ε α : Type} (outcome : Except ε α) (report : ε → Report) : ExceptT Report m α :=
  match outcome with
  | .ok value => pure value
  | .error e => throw (report e)

/-- The configuration: from the YAML file given, or else from the environment, then with the
command-line overrides. -/
def loadConfig (res : Resources m) (inv : Invocation) : ExceptT Report m FlattenConfig := do
  let base ← match inv.configFile with
    | some path => do
      let file ← (res.contentOf path : m _)
      orReport (FlattenConfig.ofYamlFile file) fun e =>
        (configReport e).within ("loading configuration from " ++ path)
    | none => do
      let found ← (FlattenConfig.environmentVariables.mapM fun name => do
        return (name, ← res.envVar name) : m _)
      let lookup (name : String) := (found.find? (·.1 == name)).bind (·.2)
      orReport (FlattenConfig.ofEnvironment lookup) fun e =>
        (configReport e).within "reading configuration from environment"
  orReport (base.override inv.overrides) configReport

/-- Declares the sources in order, numbered from 1. -/
def declareSources (catalog : EntityCatalog) (declarations : List SourceDeclaration) :
    Except ConversionError SourceScope :=
  (declarations.zipIdx 1).foldlM (fun scope (declaration, id) => do
    let (_, scope) ← scope.declare declaration catalog id
    return scope) {}

/-- The plan of the invocation's projection. -/
def planFor (res : Resources m) (inv : Invocation) (config : FlattenConfig) :
    ExceptT Report m FlatPlan := do
  let file ← (res.contentOf inv.catalog : m _)
  let catalog ← orReport (EntityCatalog.ofFile inv.catalog file) fun e =>
    Report.within ("loading entity catalog " ++ inv.catalog) { message := e.message }
  let scope ← orReport (declareSources catalog inv.sources) fun e => { message := e.message }
  orReport (planProjectionText inv.projection catalog scope config) fun e => { message := e.message }

/-- The text the plan subcommand prints: the plan as JSON, or its expression and transform. -/
def planText (plan : FlatPlan) (json : Bool) : String :=
  if json then pretty 0 plan.toJson ++ "\n"
  else
    let transform := match plan.transform with
      | some t => t.render
      | none => "none"
    "projection: " ++ plan.expression.render ++ "\ntransform:  " ++ transform ++ "\n"

/-- Applies a plan to the rows in the JSON file at `path`, giving the results as JSON. -/
def applyToFile (res : Resources m) (plan : FlatPlan) (path : String) :
    ExceptT Report m String := do
  let file ← (res.contentOf path : m _)
  let text ← orReport file fun reason => { message := "reading rows from " ++ path, causes := [reason] }
  let doc ← orReport (Json.read text) fun e =>
    { message := "parsing rows in " ++ path, causes := [e.message] }
  let rows ← orReport (Eval.rowsOfJson doc) fun e => { message := e.message }
  let results ← orReport (plan.apply rows) fun e => { message := e.message }
  return pretty 0 (.arr (results.map Eval.Value.toJson)) ++ "\n"

/-- Carries out an invocation, giving what it prints. -/
def execute (res : Resources m) (inv : Invocation) : ExceptT Report m String := do
  let config ← loadConfig res inv
  let plan ← planFor res inv config
  match inv.action with
  | .print json => return planText plan json
  | .apply rows => applyToFile res plan rows

/-- Runs the program on its arguments. -/
def run (res : Resources m) (args : List String) : m Outcome := do
  match parseArgs args with
  | .error stop => return stop.outcome
  | .ok inv =>
    match ← (execute res inv).run with
    | .ok printed => return ⟨0, printed, ""⟩
    | .error report => return ⟨1, "", report.render⟩

end Running

end FlatProjection.CommandLine
