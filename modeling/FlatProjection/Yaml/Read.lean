import FlatProjection.Yaml.Document
import FlatProjection.Json.Decode
/-
Reading typed values from a loaded YAML document.
-/

namespace FlatProjection.Yaml

open Json Number

/-- Where a value sits in the document: `entities[0].properties.Name`. -/
inductive Path where
  | root
  | seq (parent : Path) (index : Nat)
  | map (parent : Path) (key : String)
  | alias (parent : Path)
  | unknown (parent : Path)

/-- The text of a path; the root alone is `.`, and a member of the root has no dot before it. -/
def Path.render : Path → String
  | .root => "."
  | .seq parent index => parent.render ++ "[" ++ toString index ++ "]"
  | .map parent key =>
    (match parent with
      | .root => ""
      | p => p.render ++ ".") ++ key
  | .alias parent => parent.render
  | .unknown parent =>
    (match parent with
      | .root => ""
      | p => p.render ++ ".") ++ "?"

/-- What a scalar reads as. -/
inductive Found where
  | unit
  | bool (b : Bool)
  | integer (n : Int)
  /-- An integer beyond 64 bits, read as a 128-bit one (`unsigned` or signed). -/
  | wide (n : Int) (unsigned : Bool)
  | float (x : Binary64)
  | str (s : String)

/-- The text of a float in a mismatch: plain decimal with a point, or `inf`, `-inf`, `NaN`. -/
def floatMismatchText (x : Binary64) : String :=
  if x.isNaN then "NaN"
  else if !x.isFinite then (if x.negative then "-inf" else "inf")
  else pointedFloatText x

/-- How a found scalar is named in a type mismatch. -/
def Found.describe : Found → String
  | .unit => "unit value"
  | .bool b => s!"boolean `{b}`"
  | .integer n => s!"integer `{n}`"
  | .wide n unsigned => s!"integer `{n}` as " ++ (if unsigned then "u128" else "i128")
  | .float x => s!"floating point `{floatMismatchText x}`"
  | .str s => "string " ++ debugQuote s

/-- The value of a digit in any radix up to 36. -/
def digitValue (c : Char) : Option Nat :=
  if '0' ≤ c && c ≤ '9' then some (c.toNat - 48)
  else if 'a' ≤ c && c ≤ 'z' then some (c.toNat - 87)
  else if 'A' ≤ c && c ≤ 'Z' then some (c.toNat - 55)
  else none

/-- Digits in `radix` read as a number; none for no digits or a bad one. -/
def digitsIn (radix : Nat) (s : List Char) : Option Nat :=
  if s.isEmpty then none
  else s.foldlM (fun acc c => (digitValue c).bind fun d => if d < radix then some (acc * radix + d) else none) 0

/-- A numeral for an unsigned integer of `bits` bits: an optional `+`, then digits. -/
def unsignedNumeral (bits radix : Nat) (s : List Char) : Option Nat :=
  let body := match s with
    | '+' :: rest => rest
    | _ => s
  (digitsIn radix body).filter (· < Nat.pow 2 bits)

/-- A numeral for a signed integer of `bits` bits: an optional sign, then digits. -/
def signedNumeral (bits radix : Nat) (s : List Char) : Option Int :=
  match s with
  | '-' :: rest => (digitsIn radix rest).bind fun n => if n ≤ Nat.pow 2 (bits - 1) then some (-(n : Int)) else none
  | '+' :: rest => (digitsIn radix rest).bind fun n => if n < Nat.pow 2 (bits - 1) then some (n : Int) else none
  | _ => (digitsIn radix s).bind fun n => if n < Nat.pow 2 (bits - 1) then some (n : Int) else none

/-- A leading zero followed by more digits (after an optional sign) is text, not a number. -/
def digitsButNotNumber (s : List Char) : Bool :=
  let body := match s with
    | '-' :: rest | '+' :: rest => rest
    | _ => s
  body.length > 1 && body.head? == some '0' && body.tail.all fun c => '0' ≤ c && c ≤ '9'

/-- Whether a text starts with a sign. -/
def startsWithSign (s : List Char) : Bool := s.head? == some '+' || s.head? == some '-'

/-- An unsigned integer scalar of `bits` bits: `0x`, `0o` and `0b` numerals, or decimal. -/
def unsignedScalar (bits : Nat) (scalar : List Char) : Option Nat := Id.run do
  let unpositive := match scalar with
    | '+' :: rest => rest
    | _ => scalar
  for (lead, radix) in [(['0', 'x'], 16), (['0', 'o'], 8), (['0', 'b'], 2)] do
    if lead.isPrefixOf unpositive then
      let rest := unpositive.drop 2
      if startsWithSign rest then return none
      if let some n := unsignedNumeral bits radix rest then return some n
  if startsWithSign unpositive then return none
  if digitsButNotNumber scalar then return none
  return unsignedNumeral bits 10 unpositive

/-- A negative integer scalar of `bits` bits: `-0x`, `-0o` and `-0b` numerals, or decimal. -/
def negativeScalar (bits : Nat) (scalar : List Char) : Option Int := Id.run do
  for (lead, radix) in [(['-', '0', 'x'], 16), (['-', '0', 'o'], 8), (['-', '0', 'b'], 2)] do
    if lead.isPrefixOf scalar then
      if let some n := signedNumeral bits radix ('-' :: scalar.drop 3) then return some n
  if digitsButNotNumber scalar then return none
  return signedNumeral bits 10 scalar

/-- An integer scalar: 64 bits first, then 128. -/
def integerScalar (scalar : List Char) : Option Found :=
  match unsignedScalar 64 scalar with
  | some n => some (.integer n)
  | none =>
    match negativeScalar 64 scalar with
    | some n => some (.integer n)
    | none =>
      match unsignedScalar 128 scalar with
      | some n => some (.wide n true)
      | none => (negativeScalar 128 scalar).map fun n => .wide n false

/-- A decimal fraction `[sign] digits [. digits] [e [sign] digits]` with at least one digit
before the exponent, rounded to the nearest binary64 value; none when it is not finite. -/
def decimalFloat (s : List Char) : Option Binary64 :=
  let isDigit (c : Char) : Bool := '0' ≤ c && c ≤ '9'
  let (negative, body) := match s with
    | '-' :: rest => (true, rest)
    | '+' :: rest => (false, rest)
    | _ => (false, s)
  let (whole, afterWhole) := body.span isDigit
  let (fraction, afterFraction) := match afterWhole with
    | '.' :: rest => rest.span isDigit
    | _ => ([], afterWhole)
  if whole.isEmpty && fraction.isEmpty then none
  else
    let exponent? : Option Int := match afterFraction with
      | [] => some 0
      | e :: rest =>
        if e != 'e' && e != 'E' then none
        else
          let (sign, digits) : Int × List Char := match rest with
            | '-' :: ds => (-1, ds)
            | '+' :: ds => (1, ds)
            | ds => (1, ds)
          if digits.isEmpty || !digits.all isDigit then none
          else some (sign * (digits.foldl (fun acc c => acc * 10 + (c.toNat - 48)) 0 : Nat))
    exponent?.bind fun exponent =>
      let digits := (whole ++ fraction).foldl (fun acc c => acc * 10 + (c.toNat - 48)) 0
      Binary64.ofDecimal negative digits (exponent - fraction.length)

/-- Positive or negative infinity. -/
def infinity (negative : Bool) : Binary64 := Binary64.assemble negative 0x7FF 0

/-- A float scalar: `.inf` and `.nan` in three spellings each, or a finite decimal fraction. -/
def floatScalar (scalar : String) : Option Binary64 :=
  let chars := scalar.toList
  let unpositive? : Option (List Char) := match chars with
    | '+' :: rest => if startsWithSign rest then none else some rest
    | _ => some chars
  unpositive?.bind fun unpositive =>
    let u := String.ofList unpositive
    if u == ".inf" || u == ".Inf" || u == ".INF" then some (infinity false)
    else if scalar == "-.inf" || scalar == "-.Inf" || scalar == "-.INF" then some (infinity true)
    else if scalar == ".nan" || scalar == ".NaN" || scalar == ".NAN" then
      some (Binary64.assemble false 0x7FF (Nat.pow 2 51))
    else decimalFloat unpositive

/-- Whether a text spells null. -/
def isNullText (s : String) : Bool := s == "~" || s == "null" || s == "Null" || s == "NULL"

/-- A boolean spelled in YAML. -/
def boolText? (s : String) : Option Bool :=
  if s == "true" || s == "True" || s == "TRUE" then some true
  else if s == "false" || s == "False" || s == "FALSE" then some false
  else none

/-- What an untagged plain scalar reads as. -/
def resolvePlain (text : String) : Found :=
  if text.isEmpty || isNullText text then .unit
  else match boolText? text with
    | some b => .bool b
    | none =>
      match integerScalar text.toList with
      | some found => found
      | none =>
        match (if digitsButNotNumber text.toList then none else floatScalar text) with
        | some x => .float x
        | none => .str text

/-- The standard tag prefix. -/
def coreTag (name : String) : String := "tag:yaml.org,2002:" ++ name

/-- What a scalar reads as, given its tag and style; a scalar with a core tag that its text
does not fit fails. -/
def resolve (tag : Option String) (text : String) (style : ScalarStyle) : Except String Found :=
  let bad (expected : String) : Except String Found :=
    .error s!"invalid value: string {debugQuote text}, expected {expected}"
  match tag with
  | some t =>
    if t == coreTag "bool" then
      match boolText? text with
      | some b => .ok (.bool b)
      | none => bad "a boolean"
    else if t == coreTag "int" then
      match integerScalar text.toList with
      | some found => .ok found
      | none => bad "an integer"
    else if t == coreTag "float" then
      match floatScalar text with
      | some x => .ok (.float x)
      | none => bad "a float"
    else if t == coreTag "null" then
      if isNullText text then .ok .unit else bad "null"
    else if t.front == '!' && style == .plain then .ok (resolvePlain text)
    else .ok (.str text)
  | none => .ok (if style == .plain then resolvePlain text else .str text)

/-- Typed reading: it fails with a YAML error and counts the aliases followed. -/
abbrev ReadM := ExceptT YamlError (StateM Nat)

/-- A reader of values of `α`: given the document, the path and the index of the value's
first item, the value and the index after it. `fuel` bounds the aliases followed. -/
abbrev ValueReader (α : Type) := Nat → Document → Path → Nat → ReadM (α × Nat)

/-- The item at an index; past the loaded items, the error that cut the document short. -/
def itemAt (doc : Document) (pos : Nat) : ReadM (Item × Mark) :=
  match doc.items[pos]? with
  | some entry => pure entry
  | none => throw (doc.failure.getD .endOfStream)

/-- Places a typed-reading failure that has no place yet at `m` and `path`. -/
def placeFailure (m : Mark) (path : Path) : YamlError → YamlError
  | .message text none => .message text (some (m, path.render))
  | other => other

/-- Runs a read, placing its unplaced failure at `m` and `path`. -/
def placed {α : Type} (m : Mark) (path : Path) (act : ReadM α) : ReadM α :=
  tryCatch act fun e => throw (placeFailure m path e)

/-- Counts one more alias followed; too many for the document's size is an error. -/
def followAlias (doc : Document) : ReadM Unit := do
  let jumps := (← get) + 1
  set jumps
  if jumps > doc.items.size * 100 then throw .repetitionLimit

/-- A failure with no place yet. -/
def failure {α : Type} (text : String) : ReadM α := throw (.message text none)

/-- The failure for an item of the wrong kind where `expected` was wanted. -/
def mismatch {α : Type} (item : Item) (expected : String) : ReadM α :=
  match item with
  | .scalar tag text style =>
    match resolve tag text style with
    | .ok found => failure s!"invalid type: {found.describe}, expected {expected}"
    | .error text => failure text
  | .sequenceStart _ => failure s!"invalid type: sequence, expected {expected}"
  | .mappingStart _ => failure s!"invalid type: map, expected {expected}"
  | _ => throw .endOfStream

/-- Reads a scalar's text; anything else is a mismatch with `expected`. -/
def readText (expected : String) : ValueReader String
  | fuel, doc, path, pos => do
    let (item, m) ← itemAt doc pos
    placed m path do
      match item, fuel with
      | .scalar _ text _, _ => return (text, pos + 1)
      | .alias target, fuel + 1 =>
        followAlias doc
        let (text, _) ← readText expected fuel doc (.alias path) target
        return (text, pos + 1)
      | .alias _, 0 => throw .repetitionLimit
      | other, _ => mismatch other expected

/-- Reads a string. -/
def readString : ValueReader String := readText "a string"

/-- Reads a boolean from a scalar that resolves to one. -/
def readBool : ValueReader Bool
  | fuel, doc, path, pos => do
    let (item, m) ← itemAt doc pos
    placed m path do
      match item, fuel with
      | .alias target, fuel + 1 =>
        followAlias doc
        let (b, _) ← readBool fuel doc (.alias path) target
        return (b, pos + 1)
      | .alias _, 0 => throw .repetitionLimit
      | .scalar tag text style, _ =>
        match resolve tag text style with
        | .ok (.bool b) => return (b, pos + 1)
        | .ok found => failure s!"invalid type: {found.describe}, expected a boolean"
        | .error text => failure text
      | other, _ => mismatch other "a boolean"

/-- Reads one of `variants`, all without content, named by a scalar (or by a local tag). -/
def readUnitVariant (variants : List String) : ValueReader String
  | fuel, doc, path, pos => do
    let (item, m) ← itemAt doc pos
    let localTag (tag : Option String) : Option String :=
      match tag with
      | some t => if t.front == '!' then some (if t.length > 1 then String.ofList (t.toList.drop 1) else t) else none
      | none => none
    let check (name : String) : ReadM String :=
      if variants.contains name then pure name
      else failure s!"unknown variant `{name}`, expected {oneOf variants}"
    placed m path do
      match item, fuel with
      | .alias target, fuel + 1 =>
        followAlias doc
        let (name, _) ← readUnitVariant variants fuel doc (.alias path) target
        return (name, pos + 1)
      | .alias _, 0 => throw .repetitionLimit
      | .scalar tag text _, _ =>
        match localTag tag with
        | some name => return (← check name, pos + 1)
        | none => return (← check text, pos + 1)
      | .sequenceStart tag, _ =>
        match localTag tag with
        | some name =>
          let _ ← check name
          failure "invalid type: sequence, expected unit variant"
        | none => failure "invalid type: sequence, expected a YAML tag starting with '!'"
      | .mappingStart tag, _ =>
        match localTag tag with
        | some name =>
          let _ ← check name
          failure "invalid type: map, expected unit variant"
        | none => failure "invalid type: map, expected a YAML tag starting with '!'"
      | _, _ => throw .endOfStream

/-- Skips one value, however nested; aliases count as single items. -/
def skipValue (doc : Document) (pos : Nat) : ReadM Nat := do
  let mut depth : Nat := 0
  let mut p := pos
  for _ in [0:doc.items.size + 1] do
    let (item, _) ← itemAt doc p
    p := p + 1
    match item with
    | .sequenceStart _ | .mappingStart _ => depth := depth + 1
    | .sequenceEnd | .mappingEnd => depth := depth - 1
    | _ => pure ()
    if depth == 0 then break
  return p

/-- Whether an item is an empty plain scalar or an empty document, which read as an empty
collection. -/
def Item.isEmptyCollection : Item → Bool
  | .scalar _ text .plain => text.isEmpty
  | .void => true
  | _ => false

/-- Reads a sequence whose items `item` reads. -/
def readSeq {α : Type} (item : ValueReader α) : ValueReader (List α)
  | fuel, doc, path, pos => do
    let (first, m) ← itemAt doc pos
    placed m path do
      match first, fuel with
      | .alias target, fuel + 1 =>
        followAlias doc
        let (values, _) ← readSeq item fuel doc (.alias path) target
        return (values, pos + 1)
      | .alias _, 0 => throw .repetitionLimit
      | .sequenceStart _, _ =>
        let mut p := pos + 1
        let mut values : Array α := #[]
        for index in [0:doc.items.size] do
          let (next, _) ← itemAt doc p
          match next with
          | .sequenceEnd | .void => break
          | _ =>
            let (value, after) ← item fuel doc (.seq path index) p
            values := values.push value
            p := after
        let _ ← itemAt doc p
        return (values.toList, p + 1)
      | other, _ =>
        if other.isEmptyCollection then return ([], pos + 1) else mismatch other "a sequence"

/-- Reads a mapping entry by entry: `entry state key path index` reads one key and its value,
`key` being the key's text when it is a scalar; `finish` turns the final state into the value. -/
def readMapping {σ α : Type} (expected : String)
    (entry : Nat → Document → σ → Option String → Path → Nat → ReadM (σ × Nat)) (init : σ)
    (finish : σ → ReadM α) : ValueReader α
  | fuel, doc, path, pos => do
    let (first, m) ← itemAt doc pos
    placed m path do
      match first, fuel with
      | .alias target, fuel + 1 =>
        followAlias doc
        let (value, _) ← readMapping expected entry init finish fuel doc (.alias path) target
        return (value, pos + 1)
      | .alias _, 0 => throw .repetitionLimit
      | .mappingStart _, _ =>
        let mut p := pos + 1
        let mut state := init
        for _ in [0:doc.items.size] do
          let (next, _) ← itemAt doc p
          match next with
          | .mappingEnd | .void => break
          | .scalar _ text _ =>
            let (s, after) ← entry fuel doc state (some text) path p
            state := s
            p := after
          | _ =>
            let (s, after) ← entry fuel doc state none path p
            state := s
            p := after
        let value ← finish state
        let _ ← itemAt doc p
        return (value, p + 1)
      | other, _ =>
        if other.isEmptyCollection then return (← finish init, pos + 1) else mismatch other expected

/-- The path of the value under a key. -/
def valuePath (path : Path) : Option String → Path
  | some key => .map path key
  | none => .unknown path

/-- Reads a mapping of strings to values that `value` reads; a repeated key keeps its later
value. -/
def readStringMap {α : Type} (value : ValueReader α) : ValueReader (List (String × α)) :=
  readMapping "a map"
    (fun fuel doc (entries : List (String × α)) key path p => do
      let (name, afterKey) ← readString fuel doc path p
      let (v, afterValue) ← value fuel doc (valuePath path key) afterKey
      let entries := if entries.any (·.1 == name) then
          entries.map fun e => if e.1 == name then (name, v) else e
        else entries ++ [(name, v)]
      return (entries, afterValue))
    [] pure

/-- Reads a structure with the named `fields`; unknown keys are skipped, repeated ones refused. -/
def readStruct {σ α : Type} (typeName : String) (fields : List String)
    (field : Nat → Nat → Document → σ → Path → Nat → ReadM (σ × Nat)) (init : σ)
    (finish : σ → List Nat → ReadM α) : ValueReader α :=
  readMapping ("struct " ++ typeName)
    (fun fuel doc (state : σ × List Nat) key path p => do
      let (name, afterKey) ← readText "field identifier" fuel doc path p
      match fields.idxOf? name with
      | some i =>
        if state.2.contains i then failure s!"duplicate field `{name}`"
        else
          let (s, afterValue) ← field i fuel doc state.1 (valuePath path key) afterKey
          return ((s, i :: state.2), afterValue)
      | none => return (state, ← skipValue doc afterKey))
    (init, []) (fun state => finish state.1 state.2)

/-- Reads the only document of a YAML text with `reader`. A document cut short by an error
fails with that error even when the value was read; a second document is an error. -/
def readYaml {α : Type} (text : String) (reader : ValueReader α) : Except YamlError α :=
  let loaded := load text
  let doc := loaded.document
  match ((reader (doc.items.size * 100 + 2) doc .root 0).run).run 0 with
  | (.error e, _) => .error e
  | (.ok (value, _), _) =>
    match doc.failure with
    | some e => .error e
    | none => if loaded.more then .error .moreThanOneDocument else .ok value

end FlatProjection.Yaml
