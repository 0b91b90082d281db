/-!
Edit scripts between two lists. A script is read in two ways: leaving out what it inserts gives
the old list, leaving out what it deletes gives the new one. Every operation on scripts in the
modules that follow keeps both readings.
-/

namespace Recast.Diff

inductive Run (α : Type) where
  | keep (items : List α)
  | delete (items : List α)
  | insert (items : List α)
deriving DecidableEq, Repr

namespace Run

variable {α : Type}

def old : Run α → List α
  | keep items => items
  | delete items => items
  | insert _ => []

def new : Run α → List α
  | keep items => items
  | delete _ => []
  | insert items => items

end Run

abbrev Script (α : Type) := List (Run α)

namespace Script

variable {α : Type}

def old (script : Script α) : List α := script.flatMap Run.old

def new (script : Script α) : List α := script.flatMap Run.new

end Script

variable {α : Type} [DecidableEq α]

def sharedFront : List α → List α → Nat
  | a :: as, b :: bs => if a = b then sharedFront as bs + 1 else 0
  | _, _ => 0

def sharedBack (as bs : List α) : Nat := sharedFront as.reverse bs.reverse

end Recast.Diff
