/-
Files as the program sees them: the outcome of reading one is its text, or the message the
system gives for why it could not be read.
-/

namespace FlatProjection.Host

/-- The message for a file that does not exist. -/
def noSuchFile : String := "No such file or directory (os error 2)"

/-- The message for a path that names a directory. -/
def isDirectory : String := "Is a directory (os error 21)"

/-- The outcome of reading a file: its text, or the system's reason it could not be read. -/
abbrev FileRead := Except String String

/-- A file that exists with the given text, or does not exist. -/
def FileRead.ofOption : Option String → FileRead
  | some text => .ok text
  | none => .error noSuchFile

end FlatProjection.Host
