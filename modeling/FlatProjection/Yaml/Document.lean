import FlatProjection.Yaml.Event
/-
Loading YAML documents: events of the first document, aliases resolved.
-/

namespace FlatProjection.Yaml

/-- An event of a loaded document. An alias holds the index of the anchored event; `void`
stands for a document with no content at all. -/
inductive Item where
  | alias (target : Nat)
  | scalar (tag : Option String) (text : String) (style : ScalarStyle)
  | sequenceStart (tag : Option String)
  | sequenceEnd
  | mappingStart (tag : Option String)
  | mappingEnd
  | void
deriving Inhabited

/-- Why YAML text does not read as a value. -/
inductive YamlError where
  /-- A character that YAML text may not hold, at a byte offset. -/
  | reader (problem : String) (offset : Nat)
  | malformed (e : SyntaxError)
  /-- A typed-reading failure, with the mark and the rendered path of the innermost value
  being read when it arose. -/
  | message (text : String) (place : Option (Mark × String))
  | endOfStream
  | moreThanOneDocument
  | unknownAnchor (m : Mark)
  | repetitionLimit
deriving Inhabited

/-- The text of a YAML failure. -/
def YamlError.text : YamlError → String
  | .reader problem offset => problem ++ (if offset == 0 then "" else s!" at position {offset}")
  | .malformed e => e.message
  | .message text none => text
  | .message text (some (m, path)) =>
    (if path == "." then "" else path ++ ": ") ++ text ++
      (if m.isOrigin then "" else " at " ++ m.text)
  | .endOfStream => "EOF while parsing a value"
  | .moreThanOneDocument => "deserializing from YAML containing more than one document is not supported"
  | .unknownAnchor m => "unknown anchor" ++ (if m.isOrigin then "" else " at " ++ m.text)
  | .repetitionLimit => "repetition limit exceeded"

/-- One loaded document. -/
structure Document where
  items : Array (Item × Mark)
  failure : Option YamlError

/-- The byte offset of the first character that YAML text may not hold, if any. -/
def firstUnprintable (text : String) : Option Nat :=
  let rec go : List Char → Nat → Option Nat
    | [], _ => none
    | c :: rest, offset => if isPrintable c then go rest (offset + c.utf8Size) else some offset
  go text.toList 0

/-- Collects the document whose events begin at `start`, and where the next one begins. -/
def collectDocument (stream : EventStream) (start : Nat) (first : Bool) :
    Option (Document × Nat) := Id.run do
  let mut items : Array (Item × Mark) := #[]
  let mut anchors : List (String × Nat) := []
  let remember (anchor : Option String) (anchors : List (String × Nat)) (at_ : Nat) :=
    match anchor with
    | some name => (name, at_) :: anchors
    | none => anchors
  for i in [start:stream.events.size] do
    let (event, m) := stream.events[i]!
    match event with
    | .streamStart | .documentStart => pure ()
    | .streamEnd =>
      if first then
        if items.isEmpty then items := items.push (.void, m)
        return some (⟨items, none⟩, i + 1)
      else return none
    | .documentEnd => return some (⟨items, none⟩, i + 1)
    | .alias name =>
      match anchors.find? (·.1 == name) with
      | some (_, target) => items := items.push (.alias target, m)
      | none => return some (⟨items, some (.unknownAnchor m)⟩, stream.events.size)
    | .scalar anchor tag text style =>
      anchors := remember anchor anchors items.size
      items := items.push (.scalar tag text style, m)
    | .sequenceStart anchor tag =>
      anchors := remember anchor anchors items.size
      items := items.push (.sequenceStart tag, m)
    | .sequenceEnd => items := items.push (.sequenceEnd, m)
    | .mappingStart anchor tag =>
      anchors := remember anchor anchors items.size
      items := items.push (.mappingStart tag, m)
    | .mappingEnd => items := items.push (.mappingEnd, m)
  match stream.failure with
  | some e => return some (⟨items, some (.malformed e)⟩, stream.events.size)
  | none => return none

/-- A loaded stream: its first document, and whether another one follows it. -/
structure Loaded where
  document : Document
  more : Bool

/-- Loads YAML text. A character YAML may not hold stops everything before the first event;
a leading byte order mark is dropped. -/
def load (text : String) : Loaded :=
  match firstUnprintable text with
  | some offset => ⟨⟨#[], some (.reader "control characters are not allowed" offset)⟩, false⟩
  | none =>
    let body := if text.front == '﻿' then String.ofList (text.toList.drop 1) else text
    let stream := parseEvents body
    match collectDocument stream 0 true with
    | none => ⟨⟨#[], some .endOfStream⟩, false⟩
    | some (document, next) => ⟨document, (collectDocument stream next false).isSome⟩

end FlatProjection.Yaml
