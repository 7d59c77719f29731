/-!
# Edit distance

The least number of insertions, deletions and replacements of single characters that turn one text
into another.  It is computed row by row: the row of a text holds its distance to every end piece
of the other.

## Main definitions

* `distanceRow` : the distances of a list to another and to its end pieces.
* `editDistance` : the edit distance of two texts.
-/

namespace ResolverTypes.Text

variable {α : Type}

/-- The row of a list with one more element `a` in front, from the row of that list: `row` holds
the distances of the list to `bs` and to each of its end pieces. -/
def nextRow [DecidableEq α] (a : α) : List α → List Nat → List Nat
  | [], row => row.map (· + 1)
  | b :: bs, diagonal :: row =>
      let rest := nextRow a bs row
      let replaced := if a = b then row.headD 0 else row.headD 0 + 1
      min replaced (min (diagonal + 1) (rest.headD 0 + 1)) :: rest
  | _ :: _, [] => []

/-- The lengths of a list and of each of its end pieces, the longest first. -/
def tailLengths : List α → List Nat
  | [] => [0]
  | _ :: bs => (bs.length + 1) :: tailLengths bs

/-- The distances of a list to another and to each of its end pieces, the longest first. -/
def distanceRow [DecidableEq α] (bs : List α) : List α → List Nat
  | [] => tailLengths bs
  | a :: as => nextRow a bs (distanceRow bs as)

/-- The edit distance of two lists. -/
def listDistance [DecidableEq α] (as bs : List α) : Nat := (distanceRow bs as).headD 0

/-- The edit distance of two texts, counted in characters. -/
def editDistance (a b : String) : Nat := listDistance a.toList b.toList

example : editDistance "kitten" "sitting" = 3 := by decide +kernel

end ResolverTypes.Text
