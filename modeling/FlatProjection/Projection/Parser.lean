import FlatProjection.Projection.Term
import FlatProjection.Projection.Step
import FlatProjection.Text.Alphabetic
/-
The grammar of projection text.
-/

namespace FlatProjection.Projection

open Step

/-- A character that may continue an identifier: alphabetic, numeric or `_`. -/
def isIdentifierChar (c : Char) : Bool := Text.isAlphanumeric c || c == '_'

/-- A character that may start an identifier: alphabetic or `_`. -/
def isIdentifierStart (c : Char) : Bool := Text.isAlphabetic c || c == '_'

/-- An identifier such as `customer`, `OrderSet` or `_tmp1`. -/
def identifier : Step String := do
  let first ← satisfy isIdentifierStart
  let more ← takeWhile isIdentifierChar
  pure (String.ofList (first :: more))

/-- A dotted member path, without blanks around the dots. -/
def memberPath : Step MemberPath := do
  let parts ← separatedList1 (char '.') identifier
  match parts with
  | root :: members => pure ⟨root, members⟩
  | [] => pure ⟨"", []⟩

/-- The keyword `new`, not followed by an identifier character. -/
def newKeyword : Step Unit := do
  tag "new"
  notFollowedBy (satisfy isIdentifierChar)

/-- A field of an anonymous projection: `name = path` or `path`. -/
def projectionField : Step Field := do
  let name ← optional (do
    let name ← padded identifier
    let _ ← padded (char '=')
    pure name)
  match name with
  | some written =>
    let path ← context "Expected a member path after `=`" (cut (padded memberPath))
    pure ⟨some written, path⟩
  | none =>
    let path ← padded memberPath
    pure ⟨none, path⟩

/-- A member binding `M = path`. -/
def memberBinding : Step Binding := do
  let member ← padded identifier
  let _ ← context "Expected `=` in member binding" (cut (padded (char '=')))
  let path ← context "Expected a member path after `=`" (cut (padded memberPath))
  pure ⟨member, path⟩

/-- The body `{ field, … }` of an anonymous projection. -/
def anonymousBody : Step Term := do
  let _ ← padded (char '\x7b')
  let fields ← context "Error in anonymous projection fields"
    (separatedList1 (padded (char ',')) projectionField)
  let _ ← context "Expected `\x7d`" (cut (padded (char '\x7d')))
  pure (.anonymous fields)

/-- The body `W(args)`, `W { bindings }` or `W(args) { bindings }` of a named
construction. -/
def namedBody : Step Term := do
  let typeName ← padded identifier
  let ctorArgs ← optional (do
    let _ ← padded (char '(')
    let args ← separatedList0 (padded (char ',')) (padded memberPath)
    let _ ← context "Expected `)`" (cut (padded (char ')')))
    pure args)
  let bindings ← optional (do
    let _ ← padded (char '\x7b')
    let bindings ← separatedList0 (padded (char ',')) memberBinding
    let _ ← context "Expected `\x7d`" (cut (padded (char '\x7d')))
    pure bindings)
  match ctorArgs, bindings with
  | args, some bindings => pure (.memberInit typeName (args.getD []) bindings)
  | some args, none => pure (.construct typeName args)
  | none, none => failHere "Expected constructor arguments or member bindings"

/-- A construction after `new`. -/
def newExpression : Step Term := do
  padded newKeyword
  cut (context "Expected `\x7b` or a type name after `new`" (orElse anonymousBody namedBody))

/-- A projection: a construction, or else a member path. -/
def projection : Step Term := do
  blanks
  context "Expected a member path or a `new` expression"
    (orElse newExpression (do let path ← padded memberPath; pure (.path path)))

/-- Reads a whole projection text; leftover text that is not blank is reported at its start. -/
def parse (text : String) : Except Trace Term :=
  match projection text.toList with
  | .ok term rest =>
    if rest.all Text.isBlank then .ok term
    else .error [(rest, .context "Unexpected tokens after projection")]
  | .miss trace => .error trace
  | .fail trace => .error trace

/-- The message of a failed parse: one line `cause: rest` per trace entry, innermost first,
with `<end of input>` for an empty rest. -/
def traceMessage (trace : Trace) : String :=
  String.join (trace.map fun (rest, cause) =>
    cause.text ++ ": " ++ (if rest.isEmpty then "<end of input>" else String.ofList rest) ++ "\n")

end FlatProjection.Projection
