/-
The tokens of YAML text, with the marks where they start and stop, and the syntax errors
of the scanner and the parser.
-/

namespace FlatProjection.Yaml

/-- A place in the text: characters read, line and column, all counted from zero. -/
structure Mark where
  index : Nat
  line : Nat
  column : Nat
deriving DecidableEq, Inhabited, Repr

/-- How a scalar was written. -/
inductive ScalarStyle where
  | plain
  | singleQuoted
  | doubleQuoted
  | literal
  | folded
deriving DecidableEq, Inhabited, Repr

/-- A token of YAML text. -/
inductive TokenKind where
  | streamStart
  | streamEnd
  | versionDirective (major minor : Nat)
  | tagDirective (handle pre : String)
  | documentStart
  | documentEnd
  | blockSequenceStart
  | blockMappingStart
  | blockEnd
  | flowSequenceStart
  | flowSequenceEnd
  | flowMappingStart
  | flowMappingEnd
  | blockEntry
  | flowEntry
  | key
  | value
  | alias (name : String)
  | anchor (name : String)
  | tag (handle suffix : String)
  | scalar (text : String) (style : ScalarStyle)
deriving DecidableEq, Inhabited, Repr

/-- A token with the marks of its first character and of the place after it. -/
structure Token where
  kind : TokenKind
  start : Mark
  stop : Mark
deriving Inhabited

/-- A syntax error: what went wrong and where, and optionally the construct being read and
where it began. -/
structure SyntaxError where
  problem : String
  problemMark : Mark
  context : Option String
  contextMark : Mark
deriving Inhabited

/-- The text of a mark, counting lines and columns from one. -/
def Mark.text (m : Mark) : String := s!"line {m.line + 1} column {m.column + 1}"

/-- Whether a mark is the very start of the text. -/
def Mark.isOrigin (m : Mark) : Bool := m.line == 0 && m.column == 0

/-- The message of a syntax error: the problem, its place unless it is the start of the
text, then the context and its place when that differs. -/
def SyntaxError.message (e : SyntaxError) : String :=
  let problem := e.problem ++ (if e.problemMark.isOrigin then "" else " at " ++ e.problemMark.text)
  match e.context with
  | none => problem
  | some context =>
    let samePlace := e.contextMark.line == e.problemMark.line &&
      e.contextMark.column == e.problemMark.column
    problem ++ ", " ++ context ++
      (if e.contextMark.isOrigin || samePlace then "" else " at " ++ e.contextMark.text)

end FlatProjection.Yaml
