/-
Similarity of short words, for suggesting a known name in place of a mistyped one. The
score is Jaro's: characters match when equal and close enough, and half the matched pairs
out of order count as transpositions. Scores are kept as exact fractions, so comparing two
of them never rounds.
-/

namespace FlatProjection.Text

/-- A score in `[0, 1]` as a fraction: numerator and positive denominator. -/
structure Score where
  num : Nat
  den : Nat
deriving DecidableEq, Inhabited, Repr

namespace Score

/-- Whether one score is at most another. -/
def le (a b : Score) : Bool := a.num * b.den ≤ b.num * a.den

/-- Whether a score is above seven tenths, the bar for a suggestion. -/
def isClose (s : Score) : Bool := 7 * s.den < 10 * s.num

end Score

/-- The characters of `a` matched in `b` within `range` places, and which of `b` were matched. -/
def jaroMatches (a b : List Char) (range : Nat) : List Char × Array Bool :=
  let chars := b.toArray
  let step (acc : List Char × Array Bool) (entry : Char × Nat) : List Char × Array Bool :=
    let (c, i) := entry
    let lo := i - range
    let hi := min chars.size (i + range + 1)
    let free (j : Nat) : Bool := chars[j]? == some c && acc.2[j]? == some false
    match (List.range' lo (hi - lo)).find? free with
    | some j => (acc.1 ++ [c], acc.2.setIfInBounds j true)
    | none => acc
  a.zipIdx.foldl step ([], Array.replicate chars.size false)

/-- The Jaro similarity of two words. -/
def jaro (a b : String) : Score :=
  let xs := a.toList
  let ys := b.toList
  let la := xs.length
  let lb := ys.length
  if la == 0 && lb == 0 then ⟨1, 1⟩
  else if la == 0 || lb == 0 then ⟨0, 1⟩
  else
    let (fromA, flags) := jaroMatches xs ys (max la lb / 2 - 1)
    let fromB := (ys.zip flags.toList).filterMap fun (c, used) => if used then some c else none
    let m := fromA.length
    if m == 0 then ⟨0, 1⟩
    else
      let t := ((fromA.zip fromB).filter fun (x, y) => x != y).length / 2
      ⟨m * m * lb + m * m * la + (m - t) * la * lb, 3 * la * lb * m⟩

/-- The candidates close to `word`, least similar first; equally similar ones keep their
order. -/
def closeMatches (word : String) (candidates : List String) : List String :=
  let scored := (candidates.map fun c => (jaro word c, c)).filter (·.1.isClose)
  (scored.mergeSort fun x y => x.1.le y.1).map (·.2)

end FlatProjection.Text
