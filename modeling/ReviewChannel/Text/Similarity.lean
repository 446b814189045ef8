/-!
How much two texts resemble each other: how many characters they have in common at nearby positions,
and how many of these stand in another order.

* `resembles` says whether two texts are so much alike that one was probably meant by the other.
-/

namespace ReviewChannel.Similarity

/-- The position of the first element from `low` on and before `high` that is the character and has
not been taken yet. -/
def partner? (c : Char) (low high : Nat) (others : List (Char × Nat)) : Option Nat :=
  (others.find? fun (d, j) => low ≤ j && j < high && c == d).map (·.2)

/-- The pairs of positions of common characters that are no further apart than `range`. A character
of the second text belongs to one pair at most. -/
def pairs (range : Nat) : List (Char × Nat) → List (Char × Nat) → List (Nat × Nat)
  | [], _ => []
  | (c, i) :: rest, others =>
      match partner? c (i - range) (i + range + 1) others with
      | some j => (i, j) :: pairs range rest (others.filter (·.2 != j))
      | none => pairs range rest others

/-- How many common characters stand at other places among the common ones of the second text. -/
def displaced (as bs : List Char) (ps : List (Nat × Nat)) : Nat :=
  let firsts := ps.filterMap fun p => as[p.1]?
  let seconds := ((ps.map (·.2)).mergeSort (· ≤ ·)).filterMap (bs[·]?)
  (firsts.zip seconds).countP fun (c, d) => c != d

/-- Whether the mean of three shares is above seven tenths: the share of common characters in either
text, and the share of them that stand in order. -/
def resembles (a b : String) : Bool :=
  let as := a.toList
  let bs := b.toList
  let m := as.length
  let n := bs.length
  let ps := pairs (max m n / 2 - 1) as.zipIdx bs.zipIdx
  let k := ps.length
  let t := displaced as bs ps / 2
  0 < k && 21 * (m * n * k) < 10 * (k * k * n + k * k * m + (k - t) * (m * n))

end ReviewChannel.Similarity
