/-!
# Similarity of texts

Two texts are compared by their matching blocks: the longest block of characters they have
in common is taken (of several longest ones, the one that starts first in the first text,
then first in the second), and the parts on its left and on its right are matched in the
same way. The similarity is twice the number of matched characters over the total length of
both texts, and a word is close to another when its similarity is at least three fifths.
This is how a mistyped option name is told apart from an unrelated one.
-/

namespace CallBasic.Text

/-- A longest common block of `a` between `alo` and `ahi` and of `b` between `blo` and `bhi`,
as its start in each and its length. Rows are scanned in order and a block replaces the
best one only when it is strictly longer, so the first of several longest blocks wins. -/
def longestBlock (a b : Array Char) (alo ahi blo bhi : Nat) : Nat × Nat × Nat :=
  let width := bhi - blo
  let row (acc : (Nat × Nat × Nat) × Array Nat) (di : Nat) : (Nat × Nat × Nat) × Array Nat :=
    let i := alo + di
    let (best, prev) := acc
    (List.range width).foldl (fun (st : (Nat × Nat × Nat) × Array Nat) dj =>
      let j := blo + dj
      let (best, cur) := st
      match a[i]?, b[j]? with
      | some x, some y =>
        if x == y then
          let k := (if dj == 0 then 0 else prev.getD (dj - 1) 0) + 1
          let cur := cur.setIfInBounds dj k
          if k > best.2.2 then ((i + 1 - k, j + 1 - k, k), cur) else (best, cur)
        else (best, cur)
      | _, _ => (best, cur)) (best, Array.replicate width 0)
  ((List.range (ahi - alo)).foldl row ((alo, blo, 0), Array.replicate width 0)).1

/-- The number of characters in the matching blocks of two windows, within `fuel` levels of
splitting; each level takes a block of at least one character, so the sum of both lengths
is enough fuel. -/
def matchedLength (a b : Array Char) : Nat → Nat → Nat → Nat → Nat → Nat
  | 0, _, _, _, _ => 0
  | fuel + 1, alo, ahi, blo, bhi =>
    let (i, j, k) := longestBlock a b alo ahi blo bhi
    if k == 0 then 0
    else
      k + (if alo < i && blo < j then matchedLength a b fuel alo i blo j else 0) +
        (if i + k < ahi && j + k < bhi then matchedLength a b fuel (i + k) ahi (j + k) bhi else 0)

/-- The number of characters in the matching blocks of two texts. -/
def matched (target word : String) : Nat :=
  let a := target.toList.toArray
  let b := word.toList.toArray
  matchedLength a b (a.size + b.size + 1) 0 a.size 0 b.size

/-- Whether a word is close to a target: twice the matched characters are at least three
fifths of both lengths together. -/
def isCloseTo (word target : String) : Bool :=
  3 * (target.length + word.length) ≤ 10 * matched target word

example : matched "--help" "--hlep" = 5 ∧ isCloseTo "--hlep" "--help" ∧ !isCloseTo "--line" "--help" := by
  decide +kernel

end CallBasic.Text
