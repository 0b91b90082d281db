import Recast.Diff.Script

/-!
The search for an edit script: shared ends are kept, and what remains is cut in two where a
shortest path from the front meets one from the back. Whatever the cut, the two halves are solved
on their own, so the script leads from the old list to the new one for every choice of cut; the
choice decides only which script is found.
-/

namespace Recast.Diff

/-- The furthest place reached on each diagonal. Diagonals that were never reached are at zero. -/
structure Frontier where
  offset : Nat
  cells : Array Nat

namespace Frontier

def ofSize (offset : Nat) : Frontier := ⟨offset, Array.replicate (2 * offset) 0⟩

def get (frontier : Frontier) (k : Int) : Nat :=
  frontier.cells.getD (k + frontier.offset).toNat 0

def set (frontier : Frontier) (k : Int) (x : Nat) : Frontier :=
  { frontier with cells := frontier.cells.setIfInBounds (k + frontier.offset).toNat x }

/-- Where a path with `d` edits enters diagonal `k`: from the diagonal above or below that is
further along, and from the one below on a tie. -/
def enter (frontier : Frontier) (d k : Int) : Nat :=
  if k = -d || (k != d && frontier.get (k - 1) < frontier.get (k + 1)) then frontier.get (k + 1)
  else frontier.get (k - 1) + 1

end Frontier

variable {α : Type} [DecidableEq α]

def sharedFrom (old new : Array α) : Nat → Nat → Nat → Nat
  | 0, _, _ => 0
  | fuel + 1, x, y =>
    match old[x]?, new[y]? with
    | some a, some b => if a = b then sharedFrom old new fuel (x + 1) (y + 1) + 1 else 0
    | _, _ => 0

structure Meeting where
  forward : Frontier
  backward : Frontier
  cut : Option (Nat × Nat)

namespace Meeting

/-- Extends the path from the front on diagonal `k`. When the lengths differ by an odd number, the
cut is where the extension began. -/
def stepForward (old new : Array α) (d : Int) : Meeting → Int → Meeting
  | ⟨forward, backward, some cut⟩, _ => ⟨forward, backward, some cut⟩
  | ⟨forward, backward, none⟩, k =>
    let delta : Int := old.size - new.size
    let x := forward.enter d k
    let y : Int := x - k
    let shared :=
      if x ≤ old.size && 0 ≤ y && y ≤ new.size then sharedFrom old new (old.size - x) x y.toNat
      else 0
    let meets := delta % 2 != 0 && (k - delta).natAbs ≤ d - 1
      && old.size ≤ x + shared + backward.get (delta - k)
    ⟨forward.set k (x + shared), backward, if meets then some (x, y.toNat) else none⟩

/-- Extends the path from the back on diagonal `k`. When the lengths differ by an even number, the
cut is where the extension ended. The lists are given from the back. -/
def stepBackward (oldBack newBack : Array α) (d : Int) : Meeting → Int → Meeting
  | ⟨forward, backward, some cut⟩, _ => ⟨forward, backward, some cut⟩
  | ⟨forward, backward, none⟩, k =>
    let delta : Int := oldBack.size - newBack.size
    let x := backward.enter d k
    let y : Int := x - k
    let shared :=
      if x < oldBack.size && 0 ≤ y && y < newBack.size then
        sharedFrom oldBack newBack (oldBack.size - x) x y.toNat
      else 0
    let meets := delta % 2 = 0 && (k - delta).natAbs ≤ d
      && oldBack.size ≤ x + shared + forward.get (delta - k)
    let cut := (oldBack.size - (x + shared), newBack.size - (y.toNat + shared))
    ⟨forward, backward.set k (x + shared), if meets then some cut else none⟩

def diagonals (d : Nat) : List Int :=
  (List.range (d + 1)).map fun (i : Nat) => (d : Int) - 2 * (i : Int)

def search (old new oldBack newBack : Array α) : Nat → Nat → Meeting → Meeting
  | 0, _, m => m
  | fuel + 1, d, m =>
    let m := (diagonals d).foldl (stepForward old new (d : Int)) m
    let m := (diagonals d).foldl (stepBackward oldBack newBack (d : Int)) m
    if m.cut.isSome then m else search old new oldBack newBack fuel (d + 1) m

/-- The frontiers after finding the cut between two lists, and the cut. They start out as the
search before left them, except on the first diagonal. -/
def find (old new : List α) (forward backward : Frontier) : Meeting :=
  search old.toArray new.toArray old.reverse.toArray new.reverse.toArray
    ((old.length + new.length + 1) / 2 + 1) 0 ⟨forward.set 1 0, backward.set 1 0, none⟩

end Meeting

def keepUnlessEmpty (items : List α) : Script α :=
  if items.isEmpty then [] else [.keep items]

/-- A script between two lists, with the frontiers that the search leaves. Without fuel everything
is deleted and inserted anew. -/
def solve : Nat → List α → List α → Frontier → Frontier → Script α × Frontier × Frontier
  | 0, old, new, forward, backward => ([.delete old, .insert new], forward, backward)
  | fuel + 1, old, new, forward, backward =>
    let front := sharedFront old new
    let shared := old.take front
    let old := old.drop front
    let new := new.drop front
    let back := sharedBack old new
    let tail := old.drop (old.length - back)
    let old := old.take (old.length - back)
    let new := new.take (new.length - back)
    let (middle, forward, backward) :=
      match old, new with
      | [], [] => (([] : Script α), forward, backward)
      | [], new => ([.insert new], forward, backward)
      | old, [] => ([.delete old], forward, backward)
      | old, new =>
        let m := Meeting.find old new forward backward
        let (x, y) := m.cut.getD (old.length, 0)
        let (first, forward, backward) := solve fuel (old.take x) (new.take y) m.forward m.backward
        let (second, forward, backward) := solve fuel (old.drop x) (new.drop y) forward backward
        (first ++ second, forward, backward)
    (keepUnlessEmpty shared ++ middle ++ keepUnlessEmpty tail, forward, backward)

def script (old new : List α) : Script α :=
  let size := (old.length + new.length + 1) / 2 + 1
  (solve (old.length + new.length + 1) old new (Frontier.ofSize size) (Frontier.ofSize size)).1

end Recast.Diff
