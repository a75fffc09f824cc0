/-
Blank characters: the Unicode property White_Space, and trimming by it.
-/

namespace FlatProjection.Text

/-- The Unicode property White_Space. -/
def isBlank (c : Char) : Bool :=
  let n := c.toNat
  (9 ≤ n && n ≤ 13) || n == 32 || n == 0x85 || n == 0xA0 || n == 0x1680 ||
    (0x2000 ≤ n && n ≤ 0x200A) || n == 0x2028 || n == 0x2029 || n == 0x202F ||
    n == 0x205F || n == 0x3000

/-- The four blanks of ASCII that separate tokens: space, tab, line feed, carriage return. -/
def isAsciiSpace (c : Char) : Bool :=
  c == ' ' || c == '\t' || c == '\n' || c == '\r'

/-- Drops blank characters at both ends. -/
def trimBlank (s : String) : String :=
  String.ofList ((s.toList.dropWhile isBlank).reverse.dropWhile isBlank).reverse

/-- Drops blank characters at the start. -/
def trimBlankStart (s : String) : String :=
  String.ofList (s.toList.dropWhile isBlank)

/-- Drops blank characters at both ends of a character list. -/
def trimChars (chars : List Char) : List Char :=
  ((chars.dropWhile isBlank).reverse.dropWhile isBlank).reverse

/-- Trimming never lengthens. -/
theorem trimChars_length_le (chars : List Char) : (trimChars chars).length ≤ chars.length := by
  simp only [trimChars, List.length_reverse]
  have first : (chars.dropWhile isBlank).length ≤ chars.length := (List.dropWhile_sublist isBlank).length_le
  have second : ((chars.dropWhile isBlank).reverse.dropWhile isBlank).length ≤
      (chars.dropWhile isBlank).reverse.length := (List.dropWhile_sublist isBlank).length_le
  rw [List.length_reverse] at second
  omega

/-- The token separators are blanks, so trimming removes whatever the grammar skips. -/
theorem isBlank_of_isAsciiSpace {c : Char} (h : isAsciiSpace c = true) : isBlank c = true := by
  simp only [isAsciiSpace, Bool.or_eq_true, beq_iff_eq] at h
  rcases h with ((h | h) | h) | h <;> subst h <;> decide

end FlatProjection.Text
