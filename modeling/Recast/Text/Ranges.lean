/-!
Sets of code points given by their ranges. A table lists inclusive ranges in ascending order, so a
look-up may stop at the first range that begins above the code point. Two tables that list the
same code points are equal once touching ranges are joined, and the operations below keep them so.
-/

namespace Recast.Text

def inRanges : List (Nat × Nat) → Nat → Bool
  | [], _ => false
  | (first, last) :: more, n =>
    if n < first then false else n ≤ last || inRanges more n

def addRange : Nat × Nat → List (Nat × Nat) → List (Nat × Nat)
  | range, [] => [range]
  | (first, last), (first', last') :: more =>
    if last + 1 < first' then (first, last) :: (first', last') :: more
    else if last' + 1 < first then (first', last') :: addRange (first, last) more
    else addRange (min first first', max last last') more

def unionRanges (left right : List (Nat × Nat)) : List (Nat × Nat) :=
  left.foldr addRange right

def otherRanges (first last : Nat) : List (Nat × Nat) → List (Nat × Nat)
  | [] => if first ≤ last then [(first, last)] else []
  | (first', last') :: more =>
    if first < first' then (first, first' - 1) :: otherRanges (last' + 1) last more
    else otherRanges (last' + 1) last more

end Recast.Text
