import Std.Data.HashMap

/-!
The size of an automaton over bytes while it is being built. A state takes 32 bytes and what it
holds beside. States that lead on alike are shared as long as the earlier one is remembered: what
is remembered lies in a table with a fixed number of places, and a new entry takes the place of an
earlier one that was put there.
-/

namespace Recast

structure Extent where
  states : Nat
  bytes : Nat
deriving DecidableEq, Repr

namespace Extent

def budget : Nat := 10 * 1024 * 1024

def ofStates (states held : Nat) : Extent := ⟨states, 32 * states + held⟩

instance : Add Extent where
  add left right := ⟨left.states + right.states, left.bytes + right.bytes⟩

def extend (extent part : Extent) : Option Extent :=
  if (extent + part).bytes ≤ budget then some (extent + part) else none

theorem bytes_le_of_extend {extent part sum : Extent} (h : extent.extend part = some sum) :
    sum.bytes ≤ budget := by
  unfold extend at h
  split at h
  · next within => cases h; exact within
  · cases h

def repeated (step : Extent → Option Extent) : Nat → Extent → Option Extent
  | 0, extent => some extent
  | count + 1, extent =>
    match step extent with
    | some extent => repeated step count extent
    | none => none

end Extent

/-- Scatters the lists of numbers over the numbers of 64 bits: each number is mixed in by an
exclusive or, then the result is multiplied. -/
def scatter (numbers : List Nat) : UInt64 :=
  numbers.foldl (fun sofar n => (sofar ^^^ UInt64.ofNat n) * 1099511628211) 14695981039346656037

structure Memory where
  places : Nat
  entries : Std.HashMap Nat (List Nat × Nat)

namespace Memory

def blank (places : Nat) : Memory := ⟨places, {}⟩

def place (memory : Memory) (key : List Nat) : Nat := (scatter key).toNat % memory.places

def find? (memory : Memory) (key : List Nat) : Option Nat :=
  match memory.entries[memory.place key]? with
  | some (key', state) => if key = key' then some state else none
  | none => none

def insert (memory : Memory) (key : List Nat) (state : Nat) : Memory :=
  { memory with entries := memory.entries.insert (memory.place key) (key, state) }

@[simp]
theorem find?_insert (memory : Memory) (key : List Nat) (state : Nat) :
    (memory.insert key state).find? key = some state := by
  simp [find?, insert, place]

end Memory

structure Construction where
  extent : Extent
  memory : Memory

namespace Construction

/-- The state that a list of numbers describes: the one that is remembered, or else a new one, which
holds some bytes beside. -/
def state (key : List Nat) (held : Nat) (sofar : Construction) : Option (Nat × Construction) :=
  match sofar.memory.find? key with
  | some state => some (state, sofar)
  | none =>
    let added := sofar.extent.states
    match sofar.extent.extend (.ofStates 1 held) with
    | some extent => some (added, ⟨extent, sofar.memory.insert key added⟩)
    | none => none

end Construction

end Recast
