import Recast.Diff.Script

/-!
Hunks: changes with a few unchanged lines around them. Changes whose surroundings would touch
share a hunk.
-/

namespace Recast.Diff

structure Change where
  oldStart : Nat
  oldStop : Nat
  newStart : Nat
  newStop : Nat
deriving DecidableEq, Repr

/-- The changes of a script that begins at the given indices, where `open?` is the change that the
script before it has left open. -/
def changesFrom {α : Type} (old new : Nat) (open? : Option Change) : Script α → List Change
  | [] => open?.toList
  | .keep items :: more =>
    open?.toList ++ changesFrom (old + items.length) (new + items.length) none more
  | .delete items :: more =>
    let change := open?.getD ⟨old, old, new, new⟩
    changesFrom (old + items.length) new
      (some { change with oldStop := change.oldStop + items.length }) more
  | .insert items :: more =>
    let change := open?.getD ⟨old, old, new, new⟩
    changesFrom old (new + items.length)
      (some { change with newStop := change.newStop + items.length }) more

def changes {α : Type} (script : Script α) : List Change := changesFrom 0 0 none script

inductive HunkLine (α : Type) where
  | context (line : α)
  | delete (line : α)
  | insert (line : α)
deriving DecidableEq, Repr

structure Hunk (α : Type) where
  oldStart : Nat
  oldSize : Nat
  newStart : Nat
  newSize : Nat
  lines : List (HunkLine α)
deriving DecidableEq, Repr

/-- The number of unchanged lines around a change. -/
def contextSize : Nat := 3

def between {α : Type} (items : List α) (start stop : Nat) : List α :=
  (items.drop start).take (stop - start)

section

variable {α : Type} (old new : List α)

def trailing (change : Change) : Nat :=
  min contextSize (min (old.length - change.oldStop) (new.length - change.newStop))

def changeLines (change : Change) : List (HunkLine α) :=
  (between old change.oldStart change.oldStop).map .delete
    ++ (between new change.newStart change.newStop).map .insert

def touches (last next : Change) : Bool :=
  min next.oldStart (old.length - 1) - contextSize < last.oldStop + trailing old new last

def gapLines (last next : Change) : List (HunkLine α) :=
  (between new last.newStop
    (last.newStop + min (next.oldStart - last.oldStop) (next.newStart - last.newStop))).map .context

/-- The lines of a hunk from one of its changes on, the last change in it, and the changes that are
left for further hunks. -/
def hunkLines (change : Change) : List Change → List (HunkLine α) × Change × List Change
  | [] => (changeLines old new change, change, [])
  | next :: more =>
    if touches old new change next then
      let (lines, last, rest) := hunkLines next more
      (changeLines old new change ++ gapLines new change next ++ lines, last, rest)
    else (changeLines old new change, change, next :: more)

def hunkAt (first : Change) (more : List Change) : Hunk α × List Change :=
  let oldStart := first.oldStart - contextSize
  let newStart := first.newStart - contextSize
  let leading := (between new newStart first.newStart).map HunkLine.context
  let (lines, last, rest) := hunkLines old new first more
  let after := trailing old new last
  let closing := (between new last.newStop (last.newStop + after)).map HunkLine.context
  (⟨oldStart, last.oldStop + after - oldStart, newStart, last.newStop + after - newStart,
    leading ++ lines ++ closing⟩, rest)

def hunksOf : Nat → List Change → List (Hunk α)
  | 0, _ => []
  | _, [] => []
  | fuel + 1, change :: more =>
    let (hunk, rest) := hunkAt old new change more
    hunk :: hunksOf fuel rest

end

end Recast.Diff
