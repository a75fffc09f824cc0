import FlatProjection.Json.Value
import FlatProjection.Number.Nearest
/-
Reading JSON text strictly, with the line and column of every failure.
-/

namespace FlatProjection.Json

/-- What stopped the reader. -/
inductive ReadProblem where
  | eofInList
  | eofInObject
  | eofInString
  | eofInValue
  | expectedColon
  | expectedListCommaOrEnd
  | expectedObjectCommaOrEnd
  | expectedIdent
  | expectedValue
  | invalidEscape
  | invalidNumber
  | numberOutOfRange
  | controlCharacter
  | keyMustBeString
  | loneLeadingSurrogate
  | trailingComma
  | trailingCharacters
  | unexpectedEndOfHexEscape
  | recursionLimit
deriving DecidableEq, Inhabited

/-- The wording of a problem. -/
def ReadProblem.text : ReadProblem → String
  | .eofInList => "EOF while parsing a list"
  | .eofInObject => "EOF while parsing an object"
  | .eofInString => "EOF while parsing a string"
  | .eofInValue => "EOF while parsing a value"
  | .expectedColon => "expected `:`"
  | .expectedListCommaOrEnd => "expected `,` or `]`"
  | .expectedObjectCommaOrEnd => "expected `,` or `\x7d`"
  | .expectedIdent => "expected ident"
  | .expectedValue => "expected value"
  | .invalidEscape => "invalid escape"
  | .invalidNumber => "invalid number"
  | .numberOutOfRange => "number out of range"
  | .controlCharacter => "control character (\\u0000-\\u001F) found while parsing a string"
  | .keyMustBeString => "key must be a string"
  | .loneLeadingSurrogate => "lone leading surrogate in hex escape"
  | .trailingComma => "trailing comma"
  | .trailingCharacters => "trailing characters"
  | .unexpectedEndOfHexEscape => "unexpected end of hex escape"
  | .recursionLimit => "recursion limit exceeded"

/-- A reading failure with its place: lines count from 1, columns count the bytes read on
the line. -/
structure ReadError where
  problem : ReadProblem
  line : Nat
  column : Nat
deriving DecidableEq, Inhabited

/-- The message of a reading failure. -/
def ReadError.message (e : ReadError) : String :=
  s!"{e.problem.text} at line {e.line} column {e.column}"

/-- Line and column after reading the given bytes from a position. -/
def advanceBytes (start : Nat × Nat) (bytes : List UInt8) : Nat × Nat :=
  bytes.foldl (fun (position : Nat × Nat) (b : UInt8) =>
    if b == 10 then (position.1 + 1, 0) else (position.1, position.2 + 1)) start

/-- Line and column after reading the given characters from the start of a text. -/
def positionAfter (read : List Char) : Nat × Nat :=
  advanceBytes (1, 0) (String.ofList read).toUTF8.toList

/-- The blanks that JSON allows between tokens. -/
def isJsonBlank (c : Char) : Bool := c == ' ' || c == '\n' || c == '\t' || c == '\r'

/-- The value of a hexadecimal digit. -/
def hexValue (c : Char) : Option Nat :=
  if '0' ≤ c && c ≤ '9' then some (c.toNat - '0'.toNat)
  else if 'a' ≤ c && c ≤ 'f' then some (c.toNat - 'a'.toNat + 10)
  else if 'A' ≤ c && c ≤ 'F' then some (c.toNat - 'A'.toNat + 10)
  else none

/-- The value of a run of decimal digits. -/
def digitsValue (digits : List Char) : Nat :=
  digits.foldl (fun acc c => acc * 10 + (c.toNat - '0'.toNat)) 0

/-- A decimal digit. -/
def isDigitChar (c : Char) : Bool := '0' ≤ c && c ≤ '9'

section Reading

variable (source : List Char)

/-- The failure `problem` placed just after the characters read so far. -/
def failAt (rest : List Char) (problem : ReadProblem) : ReadError :=
  let (line, column) := positionAfter (source.take (source.length - rest.length))
  ⟨problem, line, column⟩

/-- The failure `problem` placed just after the next, unread character. -/
def failAtNext (rest : List Char) (problem : ReadProblem) : ReadError :=
  let used := source.length - rest.length
  let (line, column) := positionAfter (source.take (used + min 1 rest.length))
  ⟨problem, line, column⟩

/-- Reads the rest of a literal word such as `null` after its first letter. -/
def readWord : List Char → List Char → Except ReadError (List Char)
  | rest, [] => .ok rest
  | [], _ :: _ => .error (failAt source [] .eofInValue)
  | c :: rest, e :: more =>
    if c == e then readWord rest more else .error (failAt source rest .expectedIdent)

/-- Reads the four bytes of a `\u` escape as a 16-bit code. -/
def readHex4 (rest : List Char) : Except ReadError (Nat × List Char) :=
  let bytes := (String.ofList rest).toUTF8.toList
  if bytes.length < 4 then .error (failAt source [] .eofInString)
  else
    match rest with
    | a :: b :: c :: d :: after =>
      match hexValue a, hexValue b, hexValue c, hexValue d with
      | some va, some vb, some vc, some vd => .ok (((va * 16 + vb) * 16 + vc) * 16 + vd, after)
      | _, _, _, _ =>
        let start := positionAfter (source.take (source.length - rest.length))
        let (line, column) := advanceBytes start (bytes.take 4)
        .error ⟨.invalidEscape, line, column⟩
    | _ =>
      -- fewer than four characters that still make four bytes: the escape is not hex
      let start := positionAfter (source.take (source.length - rest.length))
      let (line, column) := advanceBytes start (bytes.take 4)
      .error ⟨.invalidEscape, line, column⟩

/-- Reads what follows `\u`: one code, or a leading and a trailing surrogate. -/
def readUnicodeEscape (rest : List Char) : Except ReadError (Char × List Char) := do
  let (code, rest) ← readHex4 source rest
  if 0xDC00 ≤ code && code ≤ 0xDFFF then throw (failAt source rest .loneLeadingSurrogate)
  else if code < 0xD800 || 0xDBFF < code then return (Char.ofNat code, rest)
  else
    match rest with
    | [] => throw (failAt source [] .eofInString)
    | '\\' :: rest =>
      match rest with
      | [] => throw (failAt source [] .eofInString)
      | 'u' :: rest =>
        let (low, rest) ← readHex4 source rest
        if low < 0xDC00 || 0xDFFF < low then throw (failAt source rest .loneLeadingSurrogate)
        else return (Char.ofNat (((code - 0xD800) * 0x400 + (low - 0xDC00)) + 0x10000), rest)
      | _ :: rest => throw (failAt source rest .unexpectedEndOfHexEscape)
    | _ :: rest => throw (failAt source rest .unexpectedEndOfHexEscape)

/-- Reads the characters of a string after its opening quote, up to and including the
closing quote. -/
def readStringBody : Nat → List Char → List Char → Except ReadError (String × List Char)
  | 0, _, rest => .error (failAt source rest .eofInString)
  | _ + 1, _, [] => .error (failAt source [] .eofInString)
  | fuel + 1, acc, c :: rest =>
    if c == '"' then .ok (String.ofList acc.reverse, rest)
    else if c == '\\' then
      match rest with
      | [] => .error (failAt source [] .eofInString)
      | e :: after =>
        let simple : Option Char :=
          match e with
          | '"' => some '"' | '\\' => some '\\' | '/' => some '/'
          | 'b' => some '\x08' | 'f' => some '\x0c' | 'n' => some '\n'
          | 'r' => some '\r' | 't' => some '\t' | _ => none
        match simple with
        | some s => readStringBody fuel (s :: acc) after
        | none =>
          if e == 'u' then
            match readUnicodeEscape source after with
            | .ok (ch, after) => readStringBody fuel (ch :: acc) after
            | .error err => .error err
          else .error (failAt source after .invalidEscape)
    else if c.toNat < 0x20 then .error (failAt source rest .controlCharacter)
    else readStringBody fuel (c :: acc) rest

/-- Reads a string after its opening quote. -/
def readString (rest : List Char) : Except ReadError (String × List Char) :=
  readStringBody source (rest.length + 1) [] rest

/-- The number `±digits · 10^exponent` as a binary64 value, failing past the largest finite
value. -/
def floatOf (rest : List Char) (negative : Bool) (digits : Nat) (exponent : Int) :
    Except ReadError (Json × List Char) :=
  match Number.Binary64.ofDecimal negative digits exponent with
  | some x => .ok (.float x, rest)
  | none => .error (failAt source rest .numberOutOfRange)

/-- Reads an exponent after `e`, for the number `±digits · 10^shift` read so far. -/
def readExponent (negative : Bool) (digits : Nat) (shift : Int) (rest : List Char) :
    Except ReadError (Json × List Char) :=
  let (expNegative, rest) :=
    match rest with
    | '+' :: after => (false, after)
    | '-' :: after => (true, after)
    | _ => (false, rest)
  match rest with
  | [] => .error (failAt source [] .eofInValue)
  | c :: after =>
    if isDigitChar c then
      let more := after.takeWhile isDigitChar
      let rest := after.dropWhile isDigitChar
      let power : Int := digitsValue (c :: more)
      floatOf source rest negative digits (shift + (if expNegative then -power else power))
    else .error (failAt source after .invalidNumber)

/-- Reads what may follow the integer digits: a fraction, an exponent, or nothing. -/
def readNumberTail (negative : Bool) (intDigits : List Char) (rest : List Char) :
    Except ReadError (Json × List Char) :=
  match rest with
  | '.' :: after =>
    let fraction := after.takeWhile isDigitChar
    let rest := after.dropWhile isDigitChar
    if fraction.isEmpty then
      match rest with
      | [] => .error (failAtNext source [] .eofInValue)
      | _ => .error (failAtNext source rest .invalidNumber)
    else
      let digits := digitsValue (intDigits ++ fraction)
      let shift : Int := -(fraction.length : Int)
      match rest with
      | c :: after => if c == 'e' || c == 'E' then readExponent source negative digits shift after
                      else floatOf source rest negative digits shift
      | [] => floatOf source rest negative digits shift
  | c :: after =>
    if c == 'e' || c == 'E' then readExponent source negative (digitsValue intDigits) 0 after
    else
      let n := digitsValue intDigits
      if !negative then
        if n < Nat.pow 2 64 then .ok (.int n, rest) else floatOf source rest false n 0
      else if n == 0 then .ok (.float (Number.Binary64.zero true), rest)
      else if n ≤ Nat.pow 2 63 then .ok (.int (-(n : Int)), rest)
      else floatOf source rest true n 0
  | [] =>
    let n := digitsValue intDigits
    if !negative then
      if n < Nat.pow 2 64 then .ok (.int n, rest) else floatOf source rest false n 0
    else if n == 0 then .ok (.float (Number.Binary64.zero true), rest)
    else if n ≤ Nat.pow 2 63 then .ok (.int (-(n : Int)), rest)
    else floatOf source rest true n 0

/-- Reads a number from its first digit (after the minus sign, if any). -/
def readNumber (negative : Bool) (rest : List Char) : Except ReadError (Json × List Char) :=
  match rest with
  | [] => .error (failAt source [] .eofInValue)
  | '0' :: after =>
    match after with
    | c :: _ => if isDigitChar c then .error (failAtNext source after .invalidNumber)
                else readNumberTail source negative ['0'] after
    | [] => readNumberTail source negative ['0'] after
  | c :: after =>
    if isDigitChar c then
      readNumberTail source negative (c :: after.takeWhile isDigitChar) (after.dropWhile isDigitChar)
    else .error (failAt source after .invalidNumber)

mutual

/-- Reads one value after optional blanks. `fuel` bounds the nesting of calls (each call
reads at least one character) and `depth` counts the arrays and objects still allowed. -/
def readValue : Nat → Nat → List Char → Except ReadError (Json × List Char)
  | 0, _, rest => .error (failAt source rest .recursionLimit)
  | fuel + 1, depth, rest =>
    let rest := rest.dropWhile isJsonBlank
    match rest with
    | [] => .error (failAtNext source [] .eofInValue)
    | c :: after =>
      if c == 'n' then (readWord source after ['u', 'l', 'l']).map (.null, ·)
      else if c == 't' then (readWord source after ['r', 'u', 'e']).map (.bool true, ·)
      else if c == 'f' then (readWord source after ['a', 'l', 's', 'e']).map (.bool false, ·)
      else if c == '-' then readNumber source true after
      else if isDigitChar c then readNumber source false rest
      else if c == '"' then (readString source after).map fun (s, r) => (.str s, r)
      else if c == '[' then
        if depth ≤ 1 then .error (failAtNext source rest .recursionLimit)
        else readItems fuel (depth - 1) true [] after
      else if c == '{' then
        if depth ≤ 1 then .error (failAtNext source rest .recursionLimit)
        else readMembers fuel (depth - 1) true [] after
      else .error (failAtNext source rest .expectedValue)

/-- Reads the items of an array after `[` (or after an item), up to and including `]`. -/
def readItems : Nat → Nat → Bool → List Json → List Char → Except ReadError (Json × List Char)
  | 0, _, _, _, rest => .error (failAt source rest .recursionLimit)
  | fuel + 1, depth, first, acc, rest =>
    let rest := rest.dropWhile isJsonBlank
    match rest with
    | [] => .error (failAtNext source [] .eofInList)
    | ']' :: after => .ok (.arr acc.reverse, after)
    | c :: after =>
      if c == ',' && !first then
        let after := after.dropWhile isJsonBlank
        match after with
        | [] => .error (failAtNext source [] .eofInValue)
        | ']' :: _ => .error (failAtNext source after .trailingComma)
        | _ => do
          let (item, rest) ← readValue fuel depth after
          readItems fuel depth false (item :: acc) rest
      else if first then do
        let (item, rest) ← readValue fuel depth rest
        readItems fuel depth false (item :: acc) rest
      else .error (failAtNext source rest .expectedListCommaOrEnd)

/-- Reads the members of an object after `{` (or after a member), up to and including `}`. -/
def readMembers : Nat → Nat → Bool → List (String × Json) → List Char →
    Except ReadError (Json × List Char)
  | 0, _, _, _, rest => .error (failAt source rest .recursionLimit)
  | fuel + 1, depth, first, acc, rest =>
    let rest := rest.dropWhile isJsonBlank
    match rest with
    | [] => .error (failAtNext source [] .eofInObject)
    | '}' :: after => .ok (.obj acc, after)
    | c :: after =>
      let keyStart : Option (List Char) :=
        if c == ',' && !first then some (after.dropWhile isJsonBlank)
        else if first then some rest
        else none
      match keyStart with
      | none => .error (failAtNext source rest .expectedObjectCommaOrEnd)
      | some keyRest =>
        match keyRest with
        | [] => .error (failAtNext source [] .eofInValue)
        | '"' :: afterQuote => do
          let (key, rest) ← readString source afterQuote
          let rest := rest.dropWhile isJsonBlank
          match rest with
          | [] => .error (failAtNext source [] .eofInObject)
          | ':' :: rest =>
            let (item, rest) ← readValue fuel depth rest
            readMembers fuel depth false (insert acc key item) rest
          | _ => .error (failAtNext source rest .expectedColon)
        | '}' :: _ => .error (failAtNext source keyRest .trailingComma)
        | _ => .error (failAtNext source keyRest .keyMustBeString)

end

end Reading

/-- Reads a whole JSON text: one value, then nothing but blanks. -/
def read (text : String) : Except ReadError Json := do
  let source := text.toList
  let (doc, rest) ← readValue source (2 * source.length + 4) 128 source
  match rest.dropWhile isJsonBlank with
  | [] => return doc
  | rest => throw (failAtNext source rest .trailingCharacters)

end FlatProjection.Json
