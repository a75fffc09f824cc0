/-
Sorted tables of code point ranges and membership by binary search.
-/

namespace FlatProjection.Text

/-- A table of inclusive code point ranges, sorted and pairwise disjoint. -/
abbrev RangeTable := Array (Nat × Nat)

/-- Whether `code` lies in a range of `table` between positions `lo` (included) and
`hi` (excluded); the table is sorted, so each step halves the window. -/
def RangeTable.containsBetween (table : RangeTable) (code : Nat) (lo hi : Nat) : Bool :=
  if lo < hi then
    let mid := (lo + hi) / 2
    match table[mid]? with
    | none => false
    | some (first, last) =>
      if code < first then table.containsBetween code lo mid
      else if last < code then table.containsBetween code (mid + 1) hi
      else true
  else false
termination_by hi - lo

/-- Whether `code` lies in one of the ranges of `table`. -/
def RangeTable.contains (table : RangeTable) (code : Nat) : Bool :=
  table.containsBetween code 0 table.size

end FlatProjection.Text
