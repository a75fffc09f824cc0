import FlatProjection.CommandLine.Command
import FlatProjection.Text.Similarity
import FlatProjection.Config.Basic
import FlatProjection.Lowering.Basic
/-
Reading the command line, argument by argument, into a command to run or a page to print.
-/

namespace FlatProjection.CommandLine

open Flatten Lowering Config

/-- A value recorded for an option, read by the option's own rule. -/
inductive Given where
  | flag
  | text (value : String)
  | policy (value : CollectionPolicy)
  | source (value : SourceDeclaration)
deriving Inhabited

/-- What one command has read: the options in the order first given, each with its values,
and the projection text. -/
structure Matches where
  given : List (Opt × List Given) := []
  projection : Option String := none
deriving Inhabited

namespace Matches

/-- Whether an option was given. -/
def has (m : Matches) (o : Opt) : Bool := m.given.any (·.1 == o)

/-- Records a value of an option, after its earlier values. -/
def add (m : Matches) (o : Opt) (value : Given) : Matches :=
  if m.has o then
    { m with given := m.given.map fun (p, values) => if p == o then (p, values ++ [value]) else (p, values) }
  else { m with given := m.given ++ [(o, [value])] }

/-- The options given, in the order first given. -/
def used (m : Matches) : List Opt := m.given.map (·.1)

/-- Whether anything at all was given. -/
def anyGiven (m : Matches) : Bool := !m.given.isEmpty || m.projection.isSome

/-- The values of an option. -/
def values (m : Matches) (o : Opt) : List Given :=
  ((m.given.find? (·.1 == o)).map (·.2)).getD []

/-- The text value of an option. -/
def text? (m : Matches) (o : Opt) : Option String :=
  (m.values o).findSome? fun
    | .text value => some value
    | _ => none

/-- The collection policy given. -/
def policy? (m : Matches) : Option CollectionPolicy :=
  (m.values .collectionPolicy).findSome? fun
    | .policy value => some value
    | _ => none

/-- The query sources given, in order. -/
def sources (m : Matches) : List SourceDeclaration :=
  (m.values .source).filterMap fun
    | .source value => some value
    | _ => none

end Matches

/-- A command line that does not parse: the message, the similar names to suggest (what they
are and which), further tips, the usage line, and whether to point to `--help`. -/
structure UsageError where
  message : String
  similar : Option (String × List String) := none
  tips : List String := []
  usage : Option String := none
  pointToHelp : Bool := true
deriving Inhabited

/-- The text of a usage error. -/
def UsageError.render (e : UsageError) : String :=
  let quoted (names : List String) := ", ".intercalate (names.map fun n => "'" ++ n ++ "'")
  let similar := match e.similar with
    | some (kind, [name]) => "\n\n  tip: a similar " ++ kind ++ " exists: '" ++ name ++ "'"
    | some (kind, names) => "\n\n  tip: some similar " ++ kind ++ "s exist: " ++ quoted names
    | none => ""
  let tips := (if e.similar.isNone && !e.tips.isEmpty then "\n" else "") ++
    String.join (e.tips.map ("\n  tip: " ++ ·))
  let usage := match e.usage with
    | some line => "\n\nUsage: " ++ line
    | none => ""
  "error: " ++ e.message ++ similar ++ tips ++ usage ++
    (if e.pointToHelp then "\n\nFor more information, try '--help'.\n" else "\n")

/-- Why reading the command line stopped before the program could run. -/
inductive Stop where
  | showHelp (command : Command)
  | showVersion
  | helpAsError (command : Command)
  | usage (e : UsageError)
deriving Inhabited

/-- What a command does once its projection is planned. -/
inductive Action where
  | print (json : Bool)
  | apply (rows : String)
deriving Inhabited

/-- What a command line asks the program to do. -/
structure Invocation where
  configFile : Option String
  overrides : Overrides
  catalog : String
  sources : List SourceDeclaration
  projection : String
  action : Action
deriving Inhabited

/-- The error for an option given without a value. -/
def emptyValue (o : Opt) : Stop :=
  .usage { message := "a value is required for '" ++ o.spec ++ "' but none was supplied" }

/-- Reads a value of an option by the option's rule. -/
def readValue (o : Opt) (value : String) : Except Stop Given :=
  let invalid (reason : String) : Stop :=
    .usage { message := "invalid value '" ++ value ++ "' for '" ++ o.spec ++ "': " ++ reason }
  match o with
  | .collectionPolicy =>
    match CollectionPolicy.parse value with
    | .ok policy => .ok (.policy policy)
    | .error reason => .error (invalid reason)
  | .source =>
    match SourceDeclaration.parse value with
    | .ok declaration => .ok (.source declaration)
    | .error e => .error (invalid e.message)
  | o => if o.isPath && value.isEmpty then .error (emptyValue o) else .ok (.text value)

/-- Takes in an option with its values: help and version stop; otherwise a value option
needs a value, an option that cannot repeat must be new, and the value must read. -/
def accept (c : Command) (m : Matches) (o : Opt) (values : List String) : Except Stop Matches :=
  match o with
  | .help => .error (.showHelp c)
  | .version => .error .showVersion
  | o =>
    if o.takesValue && values.isEmpty then .error (emptyValue o)
    else if !o.repeatable && m.has o then
      .error (.usage { message := "the argument '" ++ o.spec ++ "' cannot be used multiple times",
                       usage := some (c.errorUsage none) })
    else match values with
      | [] => .ok (m.add o .flag)
      | value :: _ => do
        let given ← readValue o value
        return m.add o given

/-- The reading state of one command. -/
structure Level where
  command : Command
  seen : Matches := {}
  /-- An option read but not yet taken in, with its value once read. -/
  pending : Option (Opt × List String) := none
  /-- Whether the pending option still waits for its value. -/
  awaiting : Bool := false
  /-- Whether `--` was given: every later argument is a plain word. -/
  trailing : Bool := false
deriving Inhabited

namespace Level

/-- Takes in the pending option. -/
def resolve (lv : Level) : Except Stop Level :=
  match lv.pending with
  | none => .ok lv
  | some (o, values) => do
    let m ← accept lv.command lv.seen o values
    return { lv with seen := m, pending := none, awaiting := false }

/-- Takes in the pending option if it is well formed, and drops it otherwise: done before
reporting another error. -/
def settle (lv : Level) : Level :=
  match lv.resolve with
  | .ok next => next
  | .error _ => { lv with pending := none, awaiting := false }

/-- What the usage line of an error counts as used. -/
def usedSoFar (lv : Level) : Option (List Opt) :=
  if lv.seen.anyGiven then some lv.seen.used else none

/-- The error for an unknown `--name`, with a close long name as suggestion when there is one. -/
def unknownLong (lv : Level) (name : String) (rest : List String) : Stop :=
  let lv := lv.settle
  let c := lv.command
  let message := "unexpected argument '--" ++ name ++ "' found"
  match (Text.closeMatches name (c.options.map (·.long))).getLast? with
  | some best =>
    let used := match c.findLong? best with
      | some o => if lv.seen.has o then lv.seen.used else lv.seen.used ++ [o]
      | none => lv.seen.used
    .usage { message, similar := some ("argument", ["--" ++ best]), usage := some (c.errorUsage (some used)) }
  | none =>
    let inSubcommands := c.subcommands.filterMap fun s => do
      let best ← (Text.closeMatches name (s.options.map (·.long))).getLast?
      let place ← rest.findIdx? (· == s.name)
      pure (place, s.name, best)
    let first := inSubcommands.foldl (fun acc x => match acc with
      | some y => if x.1 < y.1 then some x else some y
      | none => some x) none
    let tips := match first with
      | some (_, sub, best) => ["'" ++ sub ++ " --" ++ best ++ "' exists"]
      | none =>
        if !lv.trailing && c.takesProjection then
          ["to pass '--" ++ name ++ "' as a value, use '-- --" ++ name ++ "'"]
        else []
    .usage { message, tips, usage := some (c.errorUsage lv.usedSoFar) }

/-- The error for a `-x` the command does not know. -/
def unknownShort (lv : Level) (letter : Char) : Stop :=
  let arg := "-" ++ String.singleton letter
  .usage { message := "unexpected argument '" ++ arg ++ "' found",
           tips := if !lv.trailing && lv.command.takesProjection then
             ["to pass '" ++ arg ++ "' as a value, use '-- " ++ arg ++ "'"] else [],
           usage := some (lv.command.errorUsage none) }

/-- The error for a word the command has no place for: a misspelt subcommand, or an extra
argument. -/
def unexpectedWord (lv : Level) (word : String) : Stop :=
  let c := lv.command
  let names := c.subcommands.map (·.name)
  if lv.trailing && names.contains word then
    .usage { message := "unexpected argument '--' found",
             tips := ["subcommand '" ++ word ++ "' exists; to use it, remove the '--' before it"],
             usage := some (c.errorUsage none) }
  else
    match Text.closeMatches word names with
    | [] =>
      if names.isEmpty then
        .usage { message := "unexpected argument '" ++ word ++ "' found", usage := some (c.errorUsage none) }
      else
        .usage { message := "unrecognized subcommand '" ++ word ++ "'", usage := some (c.errorUsage none) }
    | close =>
      .usage { message := "unrecognized subcommand '" ++ word ++ "'", similar := some ("subcommand", close),
               usage := some (c.errorUsage none) }

/-- Reads `--name` or `--name=value`. -/
def takeLong (lv : Level) (body : String) (rest : List String) : Except Stop Level :=
  let (name, attached) := match body.toList.span (· != '=') with
    | (name, '=' :: value) => (String.ofList name, some (String.ofList value))
    | (name, _) => (String.ofList name, none)
  match lv.command.findLong? name with
  | none => .error (lv.unknownLong name rest)
  | some o =>
    match o.takesValue, attached with
    | false, some value =>
      let used := (lv.seen.used.filter fun p => !lv.command.required.contains p) ++ [o]
      .error (.usage { message := "unexpected value '" ++ value ++ "' for '" ++ o.spec ++
                         "' found; no more were expected",
                       usage := some (lv.command.errorUsage (some used)) })
    | false, none => do
      let lv ← lv.resolve
      return { lv with seen := ← accept lv.command lv.seen o [] }
    | true, some value => do
      let lv ← lv.resolve
      return { lv with seen := ← accept lv.command lv.seen o [value] }
    | true, none => do
      let lv ← lv.resolve
      return { lv with pending := some (o, []), awaiting := true }

/-- Reads `-xyz`: each letter names a flag; the first one decides, since every flag with a
letter stops reading. -/
def takeShort (lv : Level) (letters : List Char) : Except Stop Level :=
  match letters with
  | [] => .ok lv
  | letter :: _ =>
    match lv.command.findShort? letter with
    | none => .error (lv.settle.unknownShort letter)
    | some o => do
      let lv ← lv.resolve
      return { lv with seen := ← accept lv.command lv.seen o [] }

/-- Reads a plain word: the value of a waiting option, the projection, or an error. -/
def takeWord (lv : Level) (word : String) : Except Stop Level :=
  if !lv.trailing && lv.awaiting then
    .ok { lv with pending := lv.pending.map (fun (o, _) => (o, [word])), awaiting := false }
  else if lv.command.takesProjection && lv.seen.projection.isNone then do
    let lv ← lv.resolve
    return { lv with seen := { lv.seen with projection := some word } }
  else .error (lv.settle.unexpectedWord word)

end Level

/-- The help page the `help` subcommand asks for: each name must be a subcommand of the one
before it. -/
def helpFor (names : List String) : Stop :=
  let step (acc : Except Stop Command) (name : String) : Except Stop Command := do
    let c ← acc
    match c.subcommand? name with
    | some s => pure s
    | none => throw (.usage { message := "unrecognized subcommand '" ++ name ++ "'",
                              usage := some (c.errorUsage none),
                              pointToHelp := c != .help })
  match names.foldl step (.ok .main) with
  | .ok c => .showHelp c
  | .error stop => stop

/-- Reads the arguments of one command, up to the name of a subcommand, which is returned
with the arguments after it. -/
def readLevel (lv : Level) : List String → Except Stop (Level × Option (Command × List String))
  | [] => .ok (lv, none)
  | arg :: rest =>
    match (if lv.trailing then none else lv.command.subcommand? arg) with
    | some .help => .error (helpFor rest)
    | some sub => .ok (lv, some (sub, rest))
    | none =>
      if lv.trailing then do readLevel (← lv.takeWord arg) rest
      else if arg == "--" then readLevel { lv with trailing := true } rest
      else if arg.startsWith "--" then do readLevel (← lv.takeLong (arg.drop 2).toString rest) rest
      else if arg.startsWith "-" && arg != "-" then do
        readLevel (← lv.takeShort (arg.drop 1).toString.toList) rest
      else do readLevel (← lv.takeWord arg) rest

/-- Finishes a subcommand: the pending option is taken in, then every required option and
the projection must be there. -/
def finishSubcommand (lv : Level) : Except Stop Matches := do
  let lv ← lv.resolve
  let c := lv.command
  let m := lv.seen
  let missing := c.required.filter fun o => !m.has o
  let missingSpecs := missing.map (·.spec) ++ (if m.projection.isNone then ["<PROJECTION>"] else [])
  if missingSpecs.isEmpty then return m
  throw (.usage {
    message := "the following required arguments were not provided:" ++
      String.join (missingSpecs.map ("\n  " ++ ·)),
    usage := some (c.errorUsage (some (m.used ++ missing))) })

/-- What the program runs, from the program's and the subcommand's options: a global option
given after the subcommand wins. -/
def Invocation.ofMatches (top sub : Matches) (command : Command) : Invocation :=
  let text (o : Opt) := (sub.text? o).orElse fun _ => top.text? o
  { configFile := text .config
    overrides := {
      collectionPolicy := sub.policy?.orElse fun _ => top.policy?
      inputParameter := text .inputParameter
      noFallback := sub.has .noFallback || top.has .noFallback }
    catalog := (sub.text? .catalog).getD ""
    sources := sub.sources
    projection := sub.projection.getD ""
    action := if command == .apply then .apply ((sub.text? .rows).getD "")
      else .print (sub.has .json) }

/-- Reads a command line (the arguments after the program's name). -/
def parseArgs (args : List String) : Except Stop Invocation := do
  let (top, found) ← readLevel { command := .main } args
  match found with
  | some (command, rest) =>
    let (sub, _) ← readLevel { command } rest
    let subMatches ← finishSubcommand sub
    let top ← top.resolve
    return Invocation.ofMatches top.seen subMatches command
  | none =>
    let top ← top.resolve
    if !top.seen.anyGiven then throw (.helpAsError .main)
    throw (.usage {
      message := "'regroup' requires a subcommand but one was not provided\n  [subcommands: " ++
        ", ".intercalate (Command.main.subcommands.map (·.name)) ++ "]",
      usage := some (Command.main.errorUsage none) })

end FlatProjection.CommandLine
