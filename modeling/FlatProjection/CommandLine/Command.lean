import FlatProjection.Number.Layout
/-
The command line of `regroup`: its commands, options and arguments, with their help pages.
-/

namespace FlatProjection.CommandLine

open Number

/-- The named options of the command line. The first four are global: they are accepted
before and after a subcommand. -/
inductive Opt where
  | config | collectionPolicy | inputParameter | noFallback
  | catalog | source | json | rows
  | help | version
deriving DecidableEq, Inhabited, Repr

namespace Opt

/-- The long name, written after `--`. -/
def long : Opt → String
  | config => "config"
  | collectionPolicy => "collection-policy"
  | inputParameter => "input-parameter"
  | noFallback => "no-fallback"
  | catalog => "catalog"
  | source => "source"
  | json => "json"
  | rows => "rows"
  | help => "help"
  | version => "version"

/-- The one-letter name, written after `-`. -/
def short? : Opt → Option Char
  | help => some 'h'
  | version => some 'V'
  | _ => none

/-- The placeholder of the option's value; options without one are flags. -/
def valueName? : Opt → Option String
  | config => some "CONFIG"
  | collectionPolicy => some "COLLECTION_POLICY"
  | inputParameter => some "INPUT_PARAMETER"
  | catalog => some "CATALOG"
  | source => some "SOURCES"
  | rows => some "ROWS"
  | _ => none

/-- Whether the option takes a value. -/
def takesValue (o : Opt) : Bool := o.valueName?.isSome

/-- Whether the option may be given more than once, each time adding a value. -/
def repeatable : Opt → Bool
  | source => true
  | _ => false

/-- Whether a value of the option names a file, which cannot be empty. -/
def isPath : Opt → Bool
  | config | catalog | rows => true
  | _ => false

/-- The one-line description on help pages. -/
def about : Opt → String
  | config => "YAML rewriter configuration (defaults to REGROUP_* environment variables)"
  | collectionPolicy => "Concrete collection type for regrouped fields: declared, set or list"
  | inputParameter => "Name of the raw row placeholder in rewritten projections"
  | noFallback => "Fail instead of executing unsupported projections unrewritten"
  | catalog => "YAML entity catalog"
  | source => "Query source in scope, as name:Entity (repeatable)"
  | json => "Print the plan as JSON"
  | rows => "JSON file with the executed rows"
  | help => "Print help"
  | version => "Print version"

/-- The place of the option in its command's declarations; options of a command and global
options are numbered separately, and help and version come last. -/
def rank : Opt → Nat
  | config | catalog => 0
  | collectionPolicy | source => 1
  | inputParameter | json | rows => 2
  | noFallback => 3
  | help => 4
  | version => 5

/-- The key that orders options on a help page: rank, then the one-letter name (lower case
first) or else the long name. -/
def sortKey (o : Opt) : Nat × String :=
  match o.short? with
  | some c => (o.rank, String.singleton c.toLower ++ (if c.isLower then "0" else "1"))
  | none => (o.rank, o.long)

/-- The option as errors and usage lines name it: `--name <VALUE>` or `--name`. -/
def spec (o : Opt) : String :=
  "--" ++ o.long ++ (match o.valueName? with
    | some v => " <" ++ v ++ ">"
    | none => "")

/-- The options accepted by every command that runs. -/
def globals : List Opt := [config, collectionPolicy, inputParameter, noFallback]

end Opt

/-- The commands: the program itself and its subcommands. -/
inductive Command where
  | main | print | apply | help
deriving DecidableEq, Inhabited, Repr

namespace Command

/-- The subcommand's name. -/
def name : Command → String
  | main => "regroup"
  | print => "rewrite"
  | apply => "apply"
  | help => "help"

/-- How usage lines start: the program, then the subcommand. -/
def path : Command → String
  | main => "regroup"
  | c => "regroup " ++ c.name

/-- The description at the top of the help page and in the list of subcommands. -/
def about : Command → String
  | main => "Regroup - rewrite collection-valued projections into flat tuples"
  | print => "Print the rewritten projection and its post-processing transform"
  | apply => "Regroup flat rows (a JSON array of arrays) with the projection's transform"
  | help => "Print this message or the help of the given subcommand(s)"

/-- The options the command accepts, in the order they are declared. -/
def options : Command → List Opt
  | main => Opt.globals ++ [.help, .version]
  | print => [.catalog, .source, .json] ++ Opt.globals ++ [.help]
  | apply => [.catalog, .source, .rows] ++ Opt.globals ++ [.help]
  | help => []

/-- The options that must be given. -/
def required : Command → List Opt
  | print => [.catalog, .source]
  | apply => [.catalog, .source, .rows]
  | _ => []

/-- Whether the command takes the projection text as its argument. -/
def takesProjection : Command → Bool
  | print | apply => true
  | _ => false

/-- The subcommands, in the order they are listed. -/
def subcommands : Command → List Command
  | main => [print, apply, help]
  | _ => []

/-- The subcommand with a given name. -/
def subcommand? (c : Command) (name : String) : Option Command :=
  c.subcommands.find? (·.name == name)

/-- The option with a given long name. -/
def findLong? (c : Command) (name : String) : Option Opt :=
  c.options.find? (·.long == name)

/-- The option with a given one-letter name. -/
def findShort? (c : Command) (letter : Char) : Option Opt :=
  c.options.find? (·.short? == some letter)

/-- The usage line of the help page: `[OPTIONS]`, the required options, the projection and
the subcommand placeholder. -/
def helpUsage : Command → String
  | help => "regroup help [COMMAND]..."
  | c =>
    let required := c.required.map fun o => " " ++ o.spec
    c.path ++ " [OPTIONS]" ++ String.join required ++
      (if c.takesProjection then " <PROJECTION>" else "") ++
      (if c.subcommands.isEmpty then "" else " <COMMAND>")

/-- The usage line of an error: the help page's when nothing was used yet, otherwise the
required options, the other used options, the projection and the subcommand placeholder. -/
def errorUsage (c : Command) : Option (List Opt) → String
  | none => c.helpUsage
  | some used =>
    let listed := (c.required ++ used).foldl
      (fun acc o => if acc.contains o.spec then acc else acc ++ [o.spec]) []
    c.path ++ String.join (listed.map (" " ++ ·)) ++
      (if c.takesProjection then " <PROJECTION>" else "") ++
      (if c.subcommands.isEmpty then "" else " <COMMAND>")

end Command

/-- The width of a terminal line that help pages are laid out for. -/
def lineWidth : Nat := 100

/-- Whether a description goes below its entry: the entry column takes over two fifths of the
line and the description does not fit beside it. -/
def descriptionBelow (widest about : Nat) : Bool :=
  let taken := widest + 4
  taken ≤ lineWidth && 5 * taken > 2 * lineWidth && about + taken > lineWidth

/-- The entries of a help section, each description beside its entry or on the next line. -/
def helpSection (rows : List (String × String × String)) : String :=
  let widest := rows.foldl (fun w (_, entry, _) => max w entry.length) 2
  let below := rows.any fun (_, _, about) => descriptionBelow widest about.length
  let line (row : String × String × String) : String :=
    let (lead, entry, about) := row
    if below then "  " ++ lead ++ entry ++ "\n" ++ repeatChar ' ' 10 ++ about
    else "  " ++ lead ++ entry ++ repeatChar ' ' (widest + 2 - entry.length) ++ about
  "\n".intercalate (rows.map line)

/-- The lead column of an option: its one-letter name, or blanks in its place. -/
def Opt.lead (o : Opt) : String :=
  match o.short? with
  | some c => "-" ++ String.singleton c ++ ", "
  | none => "    "

/-- The help page of a command. -/
def Command.helpPage (c : Command) : String :=
  let commands := c.subcommands.map fun s => ("", s.name, s.about)
  let arguments : List (String × String × String) :=
    if c.takesProjection then
      [("", "<PROJECTION>", "Projection text, e.g. \"new \x7b customer.Name, customer.OrderSet \x7d\"")]
    else if c == .help then [("", "[COMMAND]...", "Print help for the subcommand(s)")]
    else []
  let ordered := c.options.mergeSort fun a b =>
    a.sortKey.1 < b.sortKey.1 || (a.sortKey.1 == b.sortKey.1 && a.sortKey.2 ≤ b.sortKey.2)
  let options := ordered.map fun o => (o.lead, o.spec, o.about)
  let sections :=
    (if commands.isEmpty then [] else ["Commands:\n" ++ helpSection commands]) ++
    (if arguments.isEmpty then [] else ["Arguments:\n" ++ helpSection arguments]) ++
    (if options.isEmpty then [] else ["Options:\n" ++ helpSection options])
  c.about ++ "\n\nUsage: " ++ c.helpUsage ++ "\n\n" ++ "\n\n".intercalate sections ++ "\n"

/-- The version line. -/
def versionText : String := "regroup 0.1.0-dev\n"

end FlatProjection.CommandLine
