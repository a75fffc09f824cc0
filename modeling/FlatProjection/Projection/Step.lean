import FlatProjection.Text.Blank
/-
Step parsers over characters: a step succeeds, misses or fails, with a trace.
-/

namespace FlatProjection.Projection

/-- Why a step gave up: an anonymous miss of a primitive step, the miss of every branch of
a choice, or a labelled context. -/
inductive Cause where
  | unknown
  | appended
  | context (label : String)
deriving DecidableEq, Inhabited, Repr

/-- The text of a cause. -/
def Cause.text : Cause → String
  | .unknown => "unknown error"
  | .appended => "unknown error (appended)"
  | .context label => label

/-- Where and why a parse gave up, innermost first. -/
abbrev Trace := List (List Char × Cause)

/-- The outcome of a step. -/
inductive Reply (α : Type) where
  | ok (value : α) (rest : List Char)
  | miss (trace : Trace)
  | fail (trace : Trace)
deriving Inhabited

/-- A step parser. -/
def Step (α : Type) := List Char → Reply α

namespace Step

instance : Monad Step where
  pure value := fun input => .ok value input
  bind step next := fun input =>
    match step input with
    | .ok value rest => next value rest
    | .miss trace => .miss trace
    | .fail trace => .fail trace

/-- Gives up with a failure at the current input. -/
def failHere {α : Type} (label : String) : Step α := fun input =>
  .fail [(input, .context label)]

/-- One character that satisfies `test`. -/
def satisfy (test : Char → Bool) : Step Char := fun input =>
  match input with
  | c :: rest => if test c then .ok c rest else .miss [(input, .unknown)]
  | [] => .miss [(input, .unknown)]

/-- Exactly the character `c`. -/
def char (c : Char) : Step Char := satisfy (· == c)

/-- Exactly the word `word`. -/
def tag (word : String) : Step Unit := fun input =>
  if word.toList.isPrefixOf input then .ok () (input.drop word.length)
  else .miss [(input, .unknown)]

/-- The longest run of characters that satisfy `test`; never misses. -/
def takeWhile (test : Char → Bool) : Step (List Char) := fun input =>
  .ok (input.takeWhile test) (input.dropWhile test)

/-- Skips the ASCII blanks space, tab, line feed and carriage return. -/
def blanks : Step Unit := fun input => .ok () (input.dropWhile Text.isAsciiSpace)

/-- `step` with blanks skipped before and after it. -/
def padded {α : Type} (step : Step α) : Step α := do
  blanks
  let value ← step
  blanks
  pure value

/-- Labels the misses and failures of `step` with `label` at the step's input. -/
def context {α : Type} (label : String) (step : Step α) : Step α := fun input =>
  match step input with
  | .ok value rest => .ok value rest
  | .miss trace => .miss (trace ++ [(input, .context label)])
  | .fail trace => .fail (trace ++ [(input, .context label)])

/-- Commits to `step`: its misses become failures. -/
def cut {α : Type} (step : Step α) : Step α := fun input =>
  match step input with
  | .miss trace => .fail trace
  | reply => reply

/-- `first`, or `second` if `first` misses; when both miss, the trace of `second` with the
choice's own miss added. -/
def orElse {α : Type} (first second : Step α) : Step α := fun input =>
  match first input with
  | .miss _ =>
    match second input with
    | .miss trace => .miss (trace ++ [(input, .appended)])
    | reply => reply
  | reply => reply

/-- `step` if it matches, or nothing (without consuming) if it misses. -/
def optional {α : Type} (step : Step α) : Step (Option α) := fun input =>
  match step input with
  | .ok value rest => .ok (some value) rest
  | .miss _ => .ok none input
  | .fail trace => .fail trace

/-- Succeeds without consuming when `step` misses here, and misses when it matches. -/
def notFollowedBy {α : Type} (step : Step α) : Step Unit := fun input =>
  match step input with
  | .ok _ _ => .miss [(input, .unknown)]
  | .miss _ => .ok () input
  | .fail trace => .fail trace

/-- The items after the first of a separated list; a round that consumes nothing is refused. -/
def separatedRest {α β : Type} (separator : Step β) (item : Step α)
    (acc : List α) (input : List Char) : Reply (List α) :=
  match separator input with
  | .miss _ => .ok acc.reverse input
  | .fail trace => .fail trace
  | .ok _ afterSeparator =>
    if afterSeparator.length < input.length then
      match item afterSeparator with
      | .miss _ => .ok acc.reverse input
      | .fail trace => .fail trace
      | .ok value rest =>
        if rest.length < input.length then separatedRest separator item (value :: acc) rest
        else .miss [(rest, .unknown)]
    else .miss [(afterSeparator, .unknown)]
termination_by input.length

/-- One or more items with separators between them. -/
def separatedList1 {α β : Type} (separator : Step β) (item : Step α) : Step (List α) :=
  fun input =>
    match item input with
    | .ok value rest => separatedRest separator item [value] rest
    | .miss trace => .miss trace
    | .fail trace => .fail trace

/-- Zero or more items with separators between them. -/
def separatedList0 {α β : Type} (separator : Step β) (item : Step α) : Step (List α) :=
  fun input =>
    match item input with
    | .ok value rest => separatedRest separator item [value] rest
    | .miss _ => .ok [] input
    | .fail trace => .fail trace

end Step

end FlatProjection.Projection
