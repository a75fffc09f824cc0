import FlatProjection.Yaml.Token
/-
Scanning YAML text into tokens.
-/

namespace FlatProjection.Yaml

/-- A place where a key written without `?` may have begun. -/
structure SimpleKey where
  possible : Bool
  required : Bool
  tokenNumber : Nat
  mark : Mark
deriving Inhabited

/-- No simple key. -/
def SimpleKey.none : SimpleKey := ⟨false, false, 0, ⟨0, 0, 0⟩⟩

/-- The scanner's state. -/
structure Scanner where
  input : Array Char
  pos : Nat := 0
  line : Nat := 0
  column : Nat := 0
  tokens : Array Token := #[]
  streamStartProduced : Bool := false
  streamEndProduced : Bool := false
  indent : Int := -1
  indents : List Int := []
  simpleKeyAllowed : Bool := false
  /-- One slot per flow level, innermost first. -/
  simpleKeys : List SimpleKey := []
  flowLevel : Nat := 0

/-- Scanning steps: they may fail with a syntax error, keeping what was scanned. -/
abbrev ScanM := ExceptT SyntaxError (StateM Scanner)

/-- A line break: carriage return, line feed, next line, line and paragraph separators. -/
def isBreak (c : Char) : Bool :=
  c == '\r' || c == '\n' || c == '\x85' || c == ' ' || c == ' '

/-- A space or a tab. -/
def isBlank (c : Char) : Bool := c == ' ' || c == '\t'

/-- The end of the text, read as NUL (a NUL inside the text is refused before scanning). -/
def isEnd (c : Char) : Bool := c == '\x00'

/-- A blank, a break or the end. -/
def isBlankOrEnd (c : Char) : Bool := isBlank c || isBreak c || isEnd c

/-- A break or the end. -/
def isBreakOrEnd (c : Char) : Bool := isBreak c || isEnd c

/-- A letter, digit, `_` or `-` of ASCII: the characters of anchors and tag handles. -/
def isWordChar (c : Char) : Bool :=
  ('0' ≤ c && c ≤ '9') || ('a' ≤ c && c ≤ 'z') || ('A' ≤ c && c ≤ 'Z') || c == '_' || c == '-'

/-- A hexadecimal digit's value. -/
def hexDigit? (c : Char) : Option Nat :=
  if '0' ≤ c && c ≤ '9' then some (c.toNat - 48)
  else if 'a' ≤ c && c ≤ 'f' then some (c.toNat - 87)
  else if 'A' ≤ c && c ≤ 'F' then some (c.toNat - 55)
  else none

namespace Scanner

/-- The character `k` places ahead; NUL past the end. -/
def charAt (k : Nat) : ScanM Char := do
  let s ← get
  return s.input.getD (s.pos + k) '\x00'

/-- The current place. -/
def here : ScanM Mark := do
  let s ← get
  return ⟨s.pos, s.line, s.column⟩

/-- How many characters are left, plus two: a bound for every loop over the text. -/
def budget : ScanM Nat := do
  let s ← get
  return s.input.size - s.pos + 2

/-- Steps over one character that is not a break. -/
def skip : ScanM Unit :=
  modify fun s => { s with pos := s.pos + 1, column := s.column + 1 }

/-- Steps over a line break; CR LF counts as one. -/
def skipLine : ScanM Unit := do
  let c ← charAt 0
  let d ← charAt 1
  if c == '\r' && d == '\n' then
    modify fun s => { s with pos := s.pos + 2, column := 0, line := s.line + 1 }
  else if isBreak c then
    modify fun s => { s with pos := s.pos + 1, column := 0, line := s.line + 1 }

/-- Reads one character that is not a break. -/
def readChar : ScanM Char := do
  let c ← charAt 0
  skip
  return c

/-- Reads a line break: CR LF, CR, LF and next line become LF; the line and paragraph
separators are kept. -/
def readBreak : ScanM String := do
  let c ← charAt 0
  if c == '\r' || c == '\n' || c == '\x85' then
    skipLine
    return "\n"
  else if c == ' ' || c == ' ' then
    skipLine
    return String.singleton c
  else return ""

/-- Fails with `problem` here, while reading the construct `context` begun at `start`. -/
def fail {α : Type} (context : String) (start : Mark) (problem : String) : ScanM α := do
  throw ⟨problem, ← here, some context, start⟩

/-- Fails with `problem` here, outside any construct. -/
def failHere {α : Type} (problem : String) : ScanM α := do
  let m ← here
  throw ⟨problem, m, none, m⟩

/-- Appends a token. -/
def addToken (kind : TokenKind) (start stop : Mark) : ScanM Unit :=
  modify fun s => { s with tokens := s.tokens.push ⟨kind, start, stop⟩ }

/-- Inserts a token at `position` among the tokens scanned so far. -/
def insertToken (position : Nat) (kind : TokenKind) (m : Mark) : ScanM Unit :=
  modify fun s =>
    { s with tokens := (s.tokens.toList.take position ++ [({ kind, start := m, stop := m } : Token)] ++ s.tokens.toList.drop position).toArray }

/-- Forgets the simple key of the current flow level; a required one is an error. -/
def removeSimpleKey : ScanM Unit := do
  let s ← get
  match s.simpleKeys with
  | key :: rest =>
    if key.possible && key.required then
      fail "while scanning a simple key" key.mark "could not find expected ':'"
    else set { s with simpleKeys := { key with possible := false } :: rest }
  | [] => pure ()

/-- Notes that a simple key may begin here. It is required when it stands at the block
indentation, since nothing else can stand there. -/
def saveSimpleKey : ScanM Unit := do
  let s ← get
  let required := s.flowLevel == 0 && s.indent == (s.column : Int)
  if s.simpleKeyAllowed then
    let key : SimpleKey := ⟨true, required, s.tokens.size, ⟨s.pos, s.line, s.column⟩⟩
    removeSimpleKey
    modify fun s =>
      { s with simpleKeys := match s.simpleKeys with
          | _ :: rest => key :: rest
          | [] => [key] }

/-- Drops the simple keys that can no longer end: begun on an earlier line or more than 1024
characters back. A required one is an error. -/
def staleSimpleKeys : ScanM Unit := do
  let s ← get
  let mut kept : List SimpleKey := []
  for key in s.simpleKeys.reverse do
    if key.possible && (key.mark.line < s.line || key.mark.index + 1024 < s.pos) then
      if key.required then
        fail "while scanning a simple key" key.mark "could not find expected ':'"
      kept := { key with possible := false } :: kept
    else kept := key :: kept
  modify fun st => { st with simpleKeys := kept }

/-- Closes the block collections indented deeper than `column`. -/
def unrollIndent (column : Int) : ScanM Unit := do
  if (← get).flowLevel > 0 then return
  for _ in [0:(← get).indents.length + 1] do
    let s ← get
    if s.indent > column then
      let m ← here
      addToken .blockEnd m m
      match s.indents with
      | outer :: rest => modify fun st => { st with indent := outer, indents := rest }
      | [] => modify fun st => { st with indent := -1 }
    else break

/-- Opens a block collection at `column` if it is deeper than the current indentation; its
start token goes last, or at `position`. -/
def rollIndent (column : Int) (position : Option Nat) (kind : TokenKind) (m : Mark) : ScanM Unit := do
  let s ← get
  if s.flowLevel > 0 then return
  if s.indent < column then
    set { s with indents := s.indent :: s.indents, indent := column }
    match position with
    | none => addToken kind m m
    | some n => insertToken n kind m

/-- Enters a flow collection. -/
def increaseFlowLevel : ScanM Unit :=
  modify fun s => { s with simpleKeys := SimpleKey.none :: s.simpleKeys, flowLevel := s.flowLevel + 1 }

/-- Leaves a flow collection. -/
def decreaseFlowLevel : ScanM Unit :=
  modify fun s =>
    if s.flowLevel > 0 then { s with flowLevel := s.flowLevel - 1, simpleKeys := s.simpleKeys.tail }
    else s

/-- Skips blanks, comments and line breaks up to the next token. Tabs are skipped only
inside flow collections or where no simple key may start. -/
def skipToToken : ScanM Unit := do
  for _ in [0:(← budget)] do
    if (← get).column == 0 && (← charAt 0) == '﻿' then skip
    for _ in [0:(← budget)] do
      let c ← charAt 0
      let s ← get
      if c == ' ' || ((s.flowLevel > 0 || !s.simpleKeyAllowed) && c == '\t') then skip else break
    if (← charAt 0) == '#' then
      for _ in [0:(← budget)] do
        if isBreakOrEnd (← charAt 0) then break
        skip
    if isBreak (← charAt 0) then
      skipLine
      if (← get).flowLevel == 0 then modify fun s => { s with simpleKeyAllowed := true }
    else break

/-- Starts the stream. -/
def fetchStreamStart : ScanM Unit := do
  let m ← here
  modify fun s =>
    { s with indent := -1, simpleKeyAllowed := true, simpleKeys := [SimpleKey.none] }
  modify fun s => { s with streamStartProduced := true }
  addToken .streamStart m m

/-- Ends the stream on a line of its own, closing every open block. -/
def fetchStreamEnd : ScanM Unit := do
  let s ← get
  if s.column != 0 then set { s with column := 0, line := s.line + 1 }
  unrollIndent (-1)
  removeSimpleKey
  modify fun s => { s with simpleKeyAllowed := false }
  let m ← here
  addToken .streamEnd m m
  modify fun s => { s with streamEndProduced := true }

/-- Reads a tag handle `!`, `!!` or `!word!`. -/
def scanTagHandle (directive : Bool) (start : Mark) : ScanM String := do
  if (← charAt 0) != '!' then
    fail (if directive then "while scanning a tag directive" else "while scanning a tag") start
      "did not find expected '!'"
  skip
  let mut handle := "!"
  for _ in [0:(← budget)] do
    let c ← charAt 0
    if isWordChar c then
      handle := handle.push c
      skip
    else break
  if (← charAt 0) == '!' then
    handle := handle.push '!'
    skip
  else if directive && handle != "!" then
    fail "while parsing a tag directive" start "did not find expected '!'"
  return handle

/-- Reads a percent escape `%XX` of a tag as one byte. -/
def scanUriEscape (directive : Bool) (start : Mark) : ScanM UInt8 := do
  let context := if directive then "while parsing a %TAG directive" else "while parsing a tag"
  match hexDigit? (← charAt 1), hexDigit? (← charAt 2) with
  | some hi, some lo =>
    if (← charAt 0) != '%' then fail context start "did not find URI escaped octet"
    skip; skip; skip
    return (hi * 16 + lo).toUInt8
  | _, _ => fail context start "did not find URI escaped octet"

/-- Reads the characters of a tag after its handle; `head` is text already read (its first
character, the `!`, is dropped). -/
def scanTagUri (uriChar directive : Bool) (head : String) (start : Mark) : ScanM String := do
  let mut text := if head.length > 1 then String.ofList (head.toList.drop 1) else ""
  let mut length := head.length
  let mut bytes : Array UInt8 := #[]
  for _ in [0:(← budget)] do
    let c ← charAt 0
    let ok := isWordChar c || ";/?:@&=+$.%!~*'()".contains c || (uriChar && ",[]".contains c)
    if !ok then break
    if c == '%' then
      bytes := bytes.push (← scanUriEscape directive start)
    else
      if !bytes.isEmpty then
        text := text ++ (String.fromUTF8? (ByteArray.mk bytes)).getD ""
        bytes := #[]
      text := text.push c
      skip
    length := length + 1
  if !bytes.isEmpty then text := text ++ (String.fromUTF8? (ByteArray.mk bytes)).getD ""
  if length == 0 then
    fail (if directive then "while parsing a %TAG directive" else "while parsing a tag") start
      "did not find expected tag URI"
  return text

/-- Reads a tag: verbatim `!<…>`, `!handle!suffix`, `!suffix`, or `!` alone. -/
def fetchTag : ScanM Unit := do
  saveSimpleKey
  modify fun s => { s with simpleKeyAllowed := false }
  let start ← here
  let (handle, suffix) ← do
    if (← charAt 1) == '<' then
      skip; skip
      let suffix ← scanTagUri true false "" start
      if (← charAt 0) != '>' then fail "while scanning a tag" start "did not find the expected '>'"
      skip
      pure ("", suffix)
    else
      let handle ← scanTagHandle false start
      if handle.length > 1 && handle.back == '!' then
        let suffix ← scanTagUri false false "" start
        pure (handle, suffix)
      else
        let suffix ← scanTagUri false false handle start
        if suffix.isEmpty then pure ("", "!") else pure ("!", suffix)
  let c ← charAt 0
  if !isBlankOrEnd c then
    if (← get).flowLevel == 0 || c != ',' then
      fail "while scanning a tag" start "did not find expected whitespace or line break"
  addToken (.tag handle suffix) start (← here)

/-- Reads an anchor `&name` or an alias `*name`. -/
def fetchAnchor (isAlias : Bool) : ScanM Unit := do
  saveSimpleKey
  modify fun s => { s with simpleKeyAllowed := false }
  let start ← here
  skip
  let mut name := ""
  for _ in [0:(← budget)] do
    let c ← charAt 0
    if isWordChar c then
      name := name.push c
      skip
    else break
  let stop ← here
  let c ← charAt 0
  if name.isEmpty || !(isBlankOrEnd c || "?:,]\x7d%@\x60".contains c) then
    fail (if isAlias then "while scanning an alias" else "while scanning an anchor") start
      "did not find expected alphabetic or numeric character"
  addToken (if isAlias then .alias name else .anchor name) start stop

/-- Reads a `%YAML` or `%TAG` directive and the rest of its line. -/
def fetchDirective : ScanM Unit := do
  unrollIndent (-1)
  removeSimpleKey
  modify fun s => { s with simpleKeyAllowed := false }
  let start ← here
  skip
  let mut name := ""
  for _ in [0:(← budget)] do
    let c ← charAt 0
    if isWordChar c then
      name := name.push c
      skip
    else break
  if name.isEmpty then fail "while scanning a directive" start "could not find expected directive name"
  if !isBlankOrEnd (← charAt 0) then
    fail "while scanning a directive" start "found unexpected non-alphabetical character"
  if name == "YAML" then
    for _ in [0:(← budget)] do
      if isBlank (← charAt 0) then skip else break
    let mut numbers : Array Nat := #[]
    for round in [0:2] do
      if round == 1 then
        if (← charAt 0) != '.' then
          fail "while scanning a %YAML directive" start "did not find expected digit or '.' character"
        skip
      let mut digits := 0
      let mut value := 0
      for _ in [0:(← budget)] do
        let c ← charAt 0
        if '0' ≤ c && c ≤ '9' then
          digits := digits + 1
          if digits > 9 then
            fail "while scanning a %YAML directive" start "found extremely long version number"
          value := value * 10 + (c.toNat - 48)
          skip
        else break
      if digits == 0 then
        fail "while scanning a %YAML directive" start "did not find expected version number"
      numbers := numbers.push value
    addToken (.versionDirective (numbers.getD 0 0) (numbers.getD 1 0)) start (← here)
  else if name == "TAG" then
    for _ in [0:(← budget)] do
      if isBlank (← charAt 0) then skip else break
    let handle ← scanTagHandle true start
    if !isBlank (← charAt 0) then
      fail "while scanning a %TAG directive" start "did not find expected whitespace"
    for _ in [0:(← budget)] do
      if isBlank (← charAt 0) then skip else break
    let pre ← scanTagUri true true "" start
    if !isBlankOrEnd (← charAt 0) then
      fail "while scanning a %TAG directive" start "did not find expected whitespace or line break"
    addToken (.tagDirective handle pre) start (← here)
  else fail "while scanning a directive" start "found unknown directive name"
  for _ in [0:(← budget)] do
    if isBlank (← charAt 0) then skip else break
  if (← charAt 0) == '#' then
    for _ in [0:(← budget)] do
      if isBreakOrEnd (← charAt 0) then break
      skip
  if !isBreakOrEnd (← charAt 0) then
    fail "while scanning a directive" start "did not find expected comment or line break"
  if isBreak (← charAt 0) then skipLine

/-- Reads a plain scalar, folding its lines. -/
def scanPlainScalar : ScanM Unit := do
  let indent : Int := (← get).indent + 1
  let start ← here
  let mut stop := start
  let mut text := ""
  let mut leadingBreak := ""
  let mut trailingBreaks := ""
  let mut whitespaces := ""
  let mut leadingBlanks := false
  for _ in [0:(← budget)] do
    let column := (← get).column
    let c0 ← charAt 0
    let c1 ← charAt 1
    let c2 ← charAt 2
    let c3 ← charAt 3
    if column == 0 && ((c0 == '-' && c1 == '-' && c2 == '-') || (c0 == '.' && c1 == '.' && c2 == '.'))
        && isBlankOrEnd c3 then break
    if c0 == '#' then break
    for _ in [0:(← budget)] do
      let c ← charAt 0
      if isBlankOrEnd c then break
      let flow := (← get).flowLevel > 0
      let n ← charAt 1
      if flow && c == ':' && ",?[]\x7b\x7d".contains n then
        fail "while scanning a plain scalar" start "found unexpected ':'"
      if (c == ':' && isBlankOrEnd n) || (flow && ",[]\x7b\x7d".contains c) then break
      if leadingBlanks || !whitespaces.isEmpty then
        if leadingBlanks then
          if leadingBreak.front == '\n' then
            if trailingBreaks.isEmpty then text := text.push ' '
            else
              text := text ++ trailingBreaks
              trailingBreaks := ""
            leadingBreak := ""
          else
            text := text ++ leadingBreak ++ trailingBreaks
            leadingBreak := ""
            trailingBreaks := ""
          leadingBlanks := false
        else
          text := text ++ whitespaces
          whitespaces := ""
      text := text.push (← readChar)
      stop ← here
    let c ← charAt 0
    if !(isBlank c || isBreak c) then break
    for _ in [0:(← budget)] do
      let c ← charAt 0
      if isBlank c then
        if leadingBlanks && ((← get).column : Int) < indent && c == '\t' then
          fail "while scanning a plain scalar" start "found a tab character that violates indentation"
        if !leadingBlanks then whitespaces := whitespaces.push (← readChar) else skip
      else if isBreak c then
        if !leadingBlanks then
          whitespaces := ""
          leadingBreak ← readBreak
          leadingBlanks := true
        else trailingBreaks := trailingBreaks ++ (← readBreak)
      else break
    if (← get).flowLevel == 0 && ((← get).column : Int) < indent then break
  addToken (.scalar text .plain) start stop
  if leadingBlanks then modify fun s => { s with simpleKeyAllowed := true }

/-- The character a simple escape `\c` of a double-quoted scalar stands for, or the number of
hexadecimal digits that follow `\x`, `\u` and `\U`. -/
def escapeOf (c : Char) : Option (Option Char × Nat) :=
  match c with
  | '0' => some (some '\x00', 0) | 'a' => some (some '\x07', 0) | 'b' => some (some '\x08', 0)
  | 't' => some (some '\t', 0) | '\t' => some (some '\t', 0) | 'n' => some (some '\n', 0)
  | 'v' => some (some '\x0b', 0) | 'f' => some (some '\x0c', 0) | 'r' => some (some '\r', 0)
  | 'e' => some (some '\x1b', 0) | ' ' => some (some ' ', 0) | '"' => some (some '"', 0)
  | '/' => some (some '/', 0) | '\'' => some (some '\'', 0) | '\\' => some (some '\\', 0)
  | 'N' => some (some '\x85', 0) | '_' => some (some '\xa0', 0)
  | 'L' => some (some ' ', 0) | 'P' => some (some ' ', 0)
  | 'x' => some (none, 2) | 'u' => some (none, 4) | 'U' => some (none, 8)
  | _ => none

/-- Reads a single- or double-quoted scalar. Breaks fold as in plain scalars; in single
quotes `''` is a quote, in double quotes backslash escapes apply. -/
def scanFlowScalar (single : Bool) : ScanM Unit := do
  let quote := if single then '\'' else '"'
  let start ← here
  skip
  let mut text := ""
  let mut leadingBreak := ""
  let mut trailingBreaks := ""
  let mut whitespaces := ""
  let mut leadingBlanks := false
  for _ in [0:(← budget)] do
    let column := (← get).column
    let c0 ← charAt 0
    let c1 ← charAt 1
    let c2 ← charAt 2
    let c3 ← charAt 3
    if column == 0 && ((c0 == '-' && c1 == '-' && c2 == '-') || (c0 == '.' && c1 == '.' && c2 == '.'))
        && isBlankOrEnd c3 then
      fail "while scanning a quoted scalar" start "found unexpected document indicator"
    if isEnd c0 then fail "while scanning a quoted scalar" start "found unexpected end of stream"
    leadingBlanks := false
    for _ in [0:(← budget)] do
      let c ← charAt 0
      if isBlankOrEnd c then break
      let n ← charAt 1
      if single && c == '\'' && n == '\'' then
        text := text.push '\''
        skip; skip
      else if c == quote then break
      else if !single && c == '\\' && isBreak n then
        skip
        skipLine
        leadingBlanks := true
        break
      else if !single && c == '\\' then
        match escapeOf n with
        | none => fail "while parsing a quoted scalar" start "found unknown escape character"
        | some (some e, _) =>
          text := text.push e
          skip; skip
        | some (none, digits) =>
          skip; skip
          let mut value := 0
          for k in [0:digits] do
            match hexDigit? (← charAt k) with
            | some d => value := value * 16 + d
            | none => fail "while parsing a quoted scalar" start "did not find expected hexdecimal number"
          if (0xD800 ≤ value && value ≤ 0xDFFF) || value > 0x10FFFF then
            fail "while parsing a quoted scalar" start "found invalid Unicode character escape code"
          text := text.push (Char.ofNat value)
          for _ in [0:digits] do skip
      else text := text.push (← readChar)
    if (← charAt 0) == quote then break
    for _ in [0:(← budget)] do
      let c ← charAt 0
      if isBlank c then
        if !leadingBlanks then whitespaces := whitespaces.push (← readChar) else skip
      else if isBreak c then
        if !leadingBlanks then
          whitespaces := ""
          leadingBreak ← readBreak
          leadingBlanks := true
        else trailingBreaks := trailingBreaks ++ (← readBreak)
      else break
    if leadingBlanks then
      if leadingBreak.front == '\n' then
        if trailingBreaks.isEmpty then text := text.push ' '
        else
          text := text ++ trailingBreaks
          trailingBreaks := ""
        leadingBreak := ""
      else
        text := text ++ leadingBreak ++ trailingBreaks
        leadingBreak := ""
        trailingBreaks := ""
    else
      text := text ++ whitespaces
      whitespaces := ""
  skip
  addToken (.scalar text (if single then .singleQuoted else .doubleQuoted)) start (← here)

/-- Skips the indentation and empty lines before a line of a block scalar, collecting the
breaks; fixes the indentation from the first non-empty line when it was not given. -/
def scanBlockBreaks (indent : Nat) (start : Mark) : ScanM (Nat × String) := do
  let mut maxIndent := 0
  let mut breaks := ""
  for _ in [0:(← budget)] do
    for _ in [0:(← budget)] do
      if (indent == 0 || (← get).column < indent) && (← charAt 0) == ' ' then skip else break
    if (← get).column > maxIndent then maxIndent := (← get).column
    if (indent == 0 || (← get).column < indent) && (← charAt 0) == '\t' then
      fail "while scanning a block scalar" start
        "found a tab character where an indentation space is expected"
    if !isBreak (← charAt 0) then break
    breaks := breaks ++ (← readBreak)
  let mut fixed := indent
  if indent == 0 then
    let base := (← get).indent + 1
    fixed := max (max maxIndent base.toNat) 1
  return (fixed, breaks)

/-- Reads a literal (`|`) or folded (`>`) block scalar with its chomping and indentation
indicators. -/
def scanBlockScalar (literal : Bool) : ScanM Unit := do
  let start ← here
  skip
  let mut chomping : Int := 0
  let mut increment := 0
  let c ← charAt 0
  if c == '+' || c == '-' then
    chomping := if c == '+' then 1 else -1
    skip
    let d ← charAt 0
    if '0' ≤ d && d ≤ '9' then
      if d == '0' then fail "while scanning a block scalar" start "found an indentation indicator equal to 0"
      increment := d.toNat - 48
      skip
  else if '0' ≤ c && c ≤ '9' then
    if c == '0' then fail "while scanning a block scalar" start "found an indentation indicator equal to 0"
    increment := c.toNat - 48
    skip
    let d ← charAt 0
    if d == '+' || d == '-' then
      chomping := if d == '+' then 1 else -1
      skip
  for _ in [0:(← budget)] do
    if isBlank (← charAt 0) then skip else break
  if (← charAt 0) == '#' then
    for _ in [0:(← budget)] do
      if isBreakOrEnd (← charAt 0) then break
      skip
  if !isBreakOrEnd (← charAt 0) then
    fail "while scanning a block scalar" start "did not find expected comment or line break"
  if isBreak (← charAt 0) then skipLine
  let mut stop ← here
  let mut indent := 0
  if increment > 0 then
    let base := (← get).indent
    indent := if base ≥ 0 then base.toNat + increment else increment
  let (fixed, firstBreaks) ← scanBlockBreaks indent start
  indent := fixed
  let mut trailingBreaks := firstBreaks
  let mut text := ""
  let mut leadingBreak := ""
  let mut leadingBlank := false
  for _ in [0:(← budget)] do
    if !((← get).column == indent && !isEnd (← charAt 0)) then break
    let trailingBlank := isBlank (← charAt 0)
    if !literal && leadingBreak.front == '\n' && !leadingBlank && !trailingBlank then
      if trailingBreaks.isEmpty then text := text.push ' '
      leadingBreak := ""
    else
      text := text ++ leadingBreak
      leadingBreak := ""
    text := text ++ trailingBreaks
    trailingBreaks := ""
    leadingBlank := isBlank (← charAt 0)
    for _ in [0:(← budget)] do
      if isBreakOrEnd (← charAt 0) then break
      text := text.push (← readChar)
    leadingBreak ← readBreak
    let (_, breaks) ← scanBlockBreaks indent start
    trailingBreaks := breaks
    stop ← here
  if chomping != -1 then text := text ++ leadingBreak
  if chomping == 1 then text := text ++ trailingBreaks
  addToken (.scalar text (if literal then .literal else .folded)) start stop

/-- Scans the next token, after closing the blocks that the current column ends. -/
def fetchNextToken : ScanM Unit := do
  if !(← get).streamStartProduced then
    fetchStreamStart
    return
  skipToToken
  staleSimpleKeys
  unrollIndent (← get).column
  let column := (← get).column
  let c ← charAt 0
  let c1 ← charAt 1
  let c2 ← charAt 2
  let c3 ← charAt 3
  let flow := (← get).flowLevel > 0
  let single (kind : TokenKind) : ScanM Unit := do
    let start ← here
    skip
    addToken kind start (← here)
  if isEnd c then fetchStreamEnd
  else if column == 0 && c == '%' then fetchDirective
  else if column == 0 && isBlankOrEnd c3 && ((c == '-' && c1 == '-' && c2 == '-') ||
      (c == '.' && c1 == '.' && c2 == '.')) then
    unrollIndent (-1)
    removeSimpleKey
    modify fun s => { s with simpleKeyAllowed := false }
    let start ← here
    skip; skip; skip
    addToken (if c == '-' then .documentStart else .documentEnd) start (← here)
  else if c == '[' || c == '\x7b' then
    saveSimpleKey
    increaseFlowLevel
    modify fun s => { s with simpleKeyAllowed := true }
    single (if c == '[' then .flowSequenceStart else .flowMappingStart)
  else if c == ']' || c == '\x7d' then
    removeSimpleKey
    decreaseFlowLevel
    modify fun s => { s with simpleKeyAllowed := false }
    single (if c == ']' then .flowSequenceEnd else .flowMappingEnd)
  else if c == ',' then
    removeSimpleKey
    modify fun s => { s with simpleKeyAllowed := true }
    single .flowEntry
  else if c == '-' && isBlankOrEnd c1 then
    if !flow then
      if !(← get).simpleKeyAllowed then
        failHere "block sequence entries are not allowed in this context"
      rollIndent column none .blockSequenceStart (← here)
    removeSimpleKey
    modify fun s => { s with simpleKeyAllowed := true }
    single .blockEntry
  else if c == '?' && (flow || isBlankOrEnd c1) then
    if !flow then
      if !(← get).simpleKeyAllowed then failHere "mapping keys are not allowed in this context"
      rollIndent column none .blockMappingStart (← here)
    removeSimpleKey
    modify fun s => { s with simpleKeyAllowed := !flow }
    single .key
  else if c == ':' && (flow || isBlankOrEnd c1) then
    let s ← get
    match s.simpleKeys with
    | key :: rest =>
      if key.possible then
        insertToken key.tokenNumber .key key.mark
        rollIndent key.mark.column (some key.tokenNumber) .blockMappingStart key.mark
        modify fun st => { st with simpleKeys := { key with possible := false } :: rest }
        modify fun st => { st with simpleKeyAllowed := false }
      else
        if !flow then
          if !s.simpleKeyAllowed then failHere "mapping values are not allowed in this context"
          rollIndent column none .blockMappingStart (← here)
        modify fun st => { st with simpleKeyAllowed := !flow }
    | [] => pure ()
    single .value
  else if c == '*' then fetchAnchor true
  else if c == '&' then fetchAnchor false
  else if c == '!' then fetchTag
  else if c == '|' && !flow then
    removeSimpleKey
    modify fun s => { s with simpleKeyAllowed := true }
    scanBlockScalar true
  else if c == '>' && !flow then
    removeSimpleKey
    modify fun s => { s with simpleKeyAllowed := true }
    scanBlockScalar false
  else if c == '\'' || c == '"' then
    saveSimpleKey
    modify fun s => { s with simpleKeyAllowed := false }
    scanFlowScalar (c == '\'')
  else if !(isBlankOrEnd c || "-?:,[]\x7b\x7d#&*!|>\x27\"%@\x60".contains c) ||
      (c == '-' && !isBlank c1) || (!flow && (c == '?' || c == ':') && !isBlankOrEnd c1) then
    saveSimpleKey
    modify fun s => { s with simpleKeyAllowed := false }
    scanPlainScalar
  else fail "while scanning for the next token" (← here) "found character that cannot start any token"

/-- Scans the whole stream. -/
def scanAll : ScanM Unit := do
  for _ in [0:(← budget) + 2] do
    if (← get).streamEndProduced then break
    fetchNextToken

end Scanner

/-- Whether a character may appear in YAML text: tab, line breaks, the printable characters
of ASCII and beyond, but no other controls, surrogates or `U+FFFE`/`U+FFFF`. -/
def isPrintable (c : Char) : Bool :=
  let n := c.toNat
  n == 0x09 || n == 0x0A || n == 0x0D || (0x20 ≤ n && n ≤ 0x7E) || n == 0x85 ||
    (0xA0 ≤ n && n ≤ 0xD7FF) || (0xE000 ≤ n && n ≤ 0xFFFD) || (0x10000 ≤ n && n ≤ 0x10FFFF)

/-- The tokens of a text that the parser may read, and the error that stops it after them. -/
structure TokenStream where
  tokens : Array Token
  failure : Option SyntaxError

/-- Scans a text. -/
def scan (text : String) : TokenStream :=
  let (outcome, state) := (Scanner.scanAll.run : StateM Scanner _).run { input := text.toList.toArray }
  match outcome with
  | .ok () => ⟨state.tokens, none⟩
  | .error e =>
    let pending := state.simpleKeys.filter (·.possible) |>.map (·.tokenNumber)
    let final := pending.foldl min state.tokens.size
    ⟨(state.tokens.toList.take final).toArray, some e⟩

end FlatProjection.Yaml
