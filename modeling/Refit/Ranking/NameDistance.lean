import Refit.Text.Lower

/-!
# Distance of names

The edit distance of two names without regard to case, as a share of the longer one.  The distances
between one beginning of the first name and all beginnings of the second form a row; each character
of the first name turns a row into the next.  Two rows are kept, and each is written over the one
that is no longer needed.
-/

namespace Refit

namespace NameDistance

/-- The row that is known, and the one that is being filled in. -/
structure Rows where
  previous : Array Nat
  current : Array Nat

namespace Rows

def start (width : Nat) : Rows := ⟨Array.range (width + 1), Array.replicate (width + 1) 0⟩

/-- Fills in the entry for one more character `d` of the second name, the one numbered `j`. -/
def fill (c : Char) (rows : Rows) : Char × Nat → Rows
  | (d, j) =>
    let substitution := rows.previous.getD j 0 + if c = d then 0 else 1
    let entry :=
      min (min substitution (rows.previous.getD (j + 1) 0 + 1)) (rows.current.getD j 0 + 1)
    { rows with current := rows.current.setIfInBounds (j + 1) entry }

/-- Fills in the row for one more character `c` of the first name, the one numbered `i`, and swaps
the rows. -/
def turn (name : List Char) (rows : Rows) : Char × Nat → Rows
  | (c, i) =>
    let begun := { rows with current := rows.current.setIfInBounds 0 (i + 1) }
    let filled := name.zipIdx.foldl (fill c) begun
    ⟨filled.current, filled.previous⟩

end Rows

/-- The least number of insertions, deletions and substitutions between two lists. -/
def edits (a b : List Char) : Nat :=
  (a.zipIdx.foldl (Rows.turn b) (Rows.start b.length)).previous.getD b.length 0

end NameDistance

/-- The edit distance of the lower-case forms over the length of the longer, from 0 to 1. -/
def nameDistance (a b : String) : Float :=
  let a := Text.lowerChars a.toList
  let b := Text.lowerChars b.toList
  let longest := max a.length b.length
  if longest = 0 then 0 else Float.ofNat (NameDistance.edits a b) / Float.ofNat longest

end Refit
