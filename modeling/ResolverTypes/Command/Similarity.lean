/-!
# Similar words

The Jaro similarity of two words, a number up to one: it grows with the characters that the words
share, not too far apart, and falls with those that stand in another order.  It is reckoned in
double precision, so that words right at a bound may come out on either side of it.

## Main definitions

* `similarity` : the similarity of two words.
* `similarWords` : the words that a misspelt one may stand for, the least similar first.
-/

namespace ResolverTypes.Command

/-- Marks the first unmarked place of a character between two bounds, if there is one. -/
def markMatch (c : Char) (low high : Nat) :
    Nat → List (Char × Bool) → Option (List (Char × Bool))
  | _, [] => none
  | i, (d, marked) :: rest =>
      if low ≤ i ∧ i < high ∧ d = c ∧ !marked then some ((d, true) :: rest)
      else (markMatch c low high (i + 1) rest).map ((d, marked) :: ·)

/-- The characters of a word that another one shares, with the places in the other marked. -/
def sharedChars (range : Nat) :
    Nat → List Char → List (Char × Bool) → List Char × List (Char × Bool)
  | _, [], other => ([], other)
  | i, c :: cs, other =>
      match markMatch c (i - range) (i + range + 1) 0 other with
      | some marked =>
          let (shared, last) := sharedChars range (i + 1) cs marked
          (c :: shared, last)
      | none => sharedChars range (i + 1) cs other

/-- The similarity of two words: the mean of the parts of either that the other shares, and of the
shared part that stands in the same order. -/
def similarity (a b : String) : Float :=
  let n := a.length
  let m := b.length
  if n = 0 ∧ m = 0 then 1
  else
    let (shared, marked) :=
      sharedChars (max n m / 2 - 1) 0 a.toList (b.toList.map fun c => (c, false))
    let found := (marked.filter (·.2)).map (·.1)
    let k := shared.length
    let moved := ((shared.zip found).filter fun p => p.1 != p.2).length / 2
    if k = 0 then 0
    else (k.toFloat / n.toFloat + k.toFloat / m.toFloat + (k - moved).toFloat / k.toFloat) / 3

/-- The similarity above which a word is a likely misspelling of another. -/
def likelySimilarity : Float := 0.7

/-- A list, ordered by similarity, with one more word behind those that are not more similar. -/
def insertSimilar (word : String) (value : Float) : List (String × Float) → List (String × Float)
  | [] => [(word, value)]
  | (other, v) :: rest =>
      if v > value then (word, value) :: (other, v) :: rest
      else (other, v) :: insertSimilar word value rest

/-- The words that a misspelt one may stand for, the least similar first. -/
def similarWords (word : String) (candidates : List String) : List String :=
  let likely := candidates.filterMap fun c =>
    let value := similarity word c
    if value > likelySimilarity then some (c, value) else none
  (likely.foldl (fun all c => insertSimilar c.1 c.2 all) []).map (·.1)

end ResolverTypes.Command
