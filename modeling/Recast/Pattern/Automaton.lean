import Recast.Pattern

/-!
The automaton of a pattern: a list of steps, each of which names the step that follows it. The
steps of a pattern stand in one block whose first step is where the pattern begins. A counted
repetition has a block for every round; an unbounded one ends in a fork that leads back.
-/

namespace Recast

/-- What the automaton does in a state before it goes on to the next one. A fork prefers its first way. -/
inductive Step where
  | pass (next : Nat)
  | read (members : CharClass) (next : Nat)
  | check (condition : Look) (next : Nat)
  | note (slot next : Nat)
  | fork (first second : Nat)
  | accept
deriving DecidableEq, Repr

/-- The steps of a part that begins at state `base` and is followed by state `next`. -/
abbrev Block := (base next : Nat) → List Step

namespace Step

def choose (lazy : Bool) (round onward : Nat) : Step :=
  if lazy then fork onward round else fork round onward

def rounds (body : Block) (size count base : Nat) : List Step :=
  (List.range count).flatMap fun i => body (base + i * size) (base + i * size + size)

/-- Rounds that may be made, one behind the other. Before each there is a fork to `leave`. -/
def options (lazy : Bool) (body : Block) (size count base leave : Nat) : List Step :=
  (List.range count).flatMap fun i =>
    choose lazy (base + i * (size + 1) + 1) leave
      :: body (base + i * (size + 1) + 1) (base + i * (size + 1) + 1 + size)

/-- Any number of rounds of a body that consumes something: the entry is the fork that every round
comes back to. -/
def loop (lazy : Bool) (body : Block) (base next : Nat) : List Step :=
  choose lazy (base + 1) next :: body (base + 1) base

def plus (lazy : Bool) (body : Block) (size base next : Nat) : List Step :=
  body base (base + size) ++ [choose lazy base next]

/-- Any number of rounds of a body that may match nothing: one round or more, or none. The fork at
the entry and the fork behind the body are different states. -/
def plusOrNone (lazy : Bool) (body : Block) (size base next : Nat) : List Step :=
  choose lazy (base + 1) (base + size + 2)
    :: plus lazy body size (base + 1) (base + size + 2) ++ [pass next]

def within (bounds : Bounds) (consumes : Bool) (body : Block) (size base next : Nat) : List Step :=
  match bounds.most, bounds.least with
  | some most, least =>
    let first := base + least * size
    rounds body size least base
      ++ options bounds.lazy body size (most - least) first (first + (most - least) * (size + 1))
      ++ [pass next]
  | none, 0 =>
    if consumes then loop bounds.lazy body base next
    else plusOrNone bounds.lazy body size base next
  | none, n + 1 =>
    rounds body size n base ++ plus bounds.lazy body size (base + n * size) next

def sizeWithin (bounds : Bounds) (consumes : Bool) (size : Nat) : Nat :=
  match bounds.most, bounds.least with
  | some most, least => least * size + (most - least) * (size + 1) + 1
  | none, 0 => if consumes then size + 1 else size + 3
  | none, n + 1 => n * size + size + 1

end Step

namespace Pattern

def slot (index : Nat) : Nat := 2 * index

def size : Pattern → Nat
  | empty => 1
  | char _ => 1
  | look _ => 1
  | group _ body => body.size + 2
  | seq first second => first.size + second.size
  | alt first second => first.size + second.size + 1
  | repeated body bounds => Step.sizeWithin bounds body.consumes body.size

def block : Pattern → Block
  | empty, _, next => [.pass next]
  | char members, _, next => [.read members next]
  | look condition, _, next => [.check condition next]
  | group index body, base, next =>
    .note (slot index) (base + 1) :: body.block (base + 1) (base + 1 + body.size)
      ++ [.note (slot index + 1) next]
  | seq first second, base, next =>
    first.block base (base + first.size) ++ second.block (base + first.size) next
  | alt first second, base, next =>
    .fork (base + 1) (base + 1 + first.size) :: first.block (base + 1) next
      ++ second.block (base + 1 + first.size) next
  | repeated body bounds, base, next =>
    Step.within bounds body.consumes body.block body.size base next

def automaton (pattern : Pattern) : Array Step :=
  (pattern.block 0 pattern.size ++ [Step.accept]).toArray

end Pattern

namespace Step

theorem length_rounds {body : Block} {size : Nat} (h : ∀ base next, (body base next).length = size)
    (count base : Nat) : (rounds body size count base).length = count * size := by
  simp [rounds, h, List.map_const']

theorem length_options {body : Block} {size : Nat} (h : ∀ base next, (body base next).length = size)
    (lazy : Bool) (count base leave : Nat) :
    (options lazy body size count base leave).length = count * (size + 1) := by
  simp [options, h, List.map_const']

theorem length_within (bounds : Bounds) (consumes : Bool) (body : Block) (size : Nat)
    (h : ∀ base next, (body base next).length = size) (base next : Nat) :
    (within bounds consumes body size base next).length = sizeWithin bounds consumes size := by
  unfold within sizeWithin
  split
  · simp [length_rounds h, length_options h, Nat.add_assoc]
  · split <;> simp [loop, plusOrNone, plus, h]
  · simp [length_rounds h, plus, h, Nat.add_assoc]

end Step

/-- A pattern has as many steps as its size says, so blocks can be laid out before they are
written. -/
theorem Pattern.length_block (pattern : Pattern) (base next : Nat) :
    (pattern.block base next).length = pattern.size := by
  induction pattern generalizing base next with
  | empty => rfl
  | char => rfl
  | look => rfl
  | group index body ih => simp [block, size, ih]
  | seq first second ih₁ ih₂ => simp [block, size, ih₁, ih₂]
  | alt first second ih₁ ih₂ => simp [block, size, ih₁, ih₂]
  | repeated body bounds ih => simp [block, size, Step.length_within _ _ _ _ ih]

end Recast
