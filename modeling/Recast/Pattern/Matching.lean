import Recast.Pattern.Automaton
import Recast.Scan

/-!
Matching by following all ways through the automaton at once. At every place of the text there is
a list of threads, most preferred first, and a state is entered at most once: of two threads that
come to the same state at the same place the first is kept, because both have the same ways on. So
a search looks at each character once for each state, whatever the pattern is, and a state that
leads back to itself without consuming anything is not entered again.
-/

namespace Recast

structure Marks where
  entered : Array Bool
deriving DecidableEq, Repr

namespace Marks

def none (size : Nat) : Marks := ⟨Array.replicate size false⟩

def has (marks : Marks) (state : Nat) : Bool := marks.entered.getD state false

def insert (marks : Marks) (state : Nat) : Marks := ⟨marks.entered.setIfInBounds state true⟩

@[simp]
theorem has_none (size state : Nat) : (none size).has state = false := by
  simp [none, has, Array.getD_eq_getD_getElem?, Array.getElem?_replicate]
  split <;> rfl

theorem has_insert (marks : Marks) (added state : Nat) (h : added < marks.entered.size) :
    (marks.insert added).has state = (marks.has state || added = state) := by
  simp only [insert, has, Array.getD_eq_getD_getElem?, Array.getElem?_setIfInBounds]
  by_cases hs : added = state <;> simp [hs]
  subst hs
  simp [h]

end Marks

namespace Alphabet

def has : Alphabet → Char → Bool
  | unicode, c => Text.isWord c
  | ascii, c => c.isAlphanum || c = '_'

end Alphabet

namespace LineBreak

/-- Whether a line begins between two neighbouring characters. Nothing stands between a carriage
return and its line feed. -/
def beginsLine : LineBreak → Option Char → Option Char → Bool
  | _, none, _ => true
  | lf, some c, _ => c = '\n'
  | crlf, some c, next => c = '\n' || (c = '\r' && next != some '\n')

def endsLine : LineBreak → Option Char → Option Char → Bool
  | _, _, none => true
  | lf, _, some c => c = '\n'
  | crlf, prev, some c => c = '\r' || (c = '\n' && prev != some '\r')

end LineBreak

namespace Look

def holds (condition : Look) (here : Cursor) : Bool :=
  let next := here.rest.head?
  let before (alphabet : Alphabet) := here.prev.any alphabet.has
  let after (alphabet : Alphabet) := next.any alphabet.has
  match condition with
  | textStart => here.prev.isNone
  | textEnd => here.rest.isEmpty
  | lineStart lineBreak => lineBreak.beginsLine here.prev next
  | lineEnd lineBreak => lineBreak.endsLine here.prev next
  | wordEdge alphabet => before alphabet != after alphabet
  | noWordEdge alphabet => before alphabet == after alphabet
  | wordStart alphabet => !before alphabet && after alphabet
  | wordEnd alphabet => before alphabet && !after alphabet
  | noWordBefore alphabet => !before alphabet
  | noWordAfter alphabet => !after alphabet

end Look

/-- A way through the automaton: the state it is in, where its match begins, and what the slots
hold, latest first. -/
structure Thread where
  state : Nat
  start : Nat
  slots : List (Nat × Nat)
deriving DecidableEq, Repr

namespace Thread

def moved (thread : Thread) (state : Nat) : Thread := { thread with state := state }

end Thread

structure Match where
  span : Span
  slots : List (Nat × Nat)
deriving DecidableEq, Repr

namespace Match

def group? (found : Match) (index : Nat) : Option Span :=
  if index = 0 then some found.span
  else do
    let start ← found.slots.lookup (Pattern.slot index)
    let stop ← found.slots.lookup (Pattern.slot index + 1)
    pure ⟨start, stop⟩

def ofThread (stop : Nat) (thread : Thread) : Match :=
  ⟨⟨thread.start, stop⟩, thread.slots⟩

end Match

/-- What the threads of one place come to: the threads behind the next character, and the thread
that is accepted here. Threads that are less preferred than an accepted one are dropped. -/
structure Settled where
  ahead : List Thread
  accepted : Option Thread
deriving DecidableEq, Repr

namespace Settled

/-- Follows threads, most preferred first, until each waits behind the next character or has come
to an end. `ahead` collects the waiting ones in reverse. The fuel bounds the number of threads
looked at: every state is entered once and leads to two threads at most. -/
def settle (steps : Array Step) (here : Cursor) :
    Nat → Marks → List Thread → List Thread → Settled
  | 0, _, _, ahead => ⟨ahead.reverse, none⟩
  | _ + 1, _, [], ahead => ⟨ahead.reverse, none⟩
  | fuel + 1, seen, thread :: more, ahead =>
    if seen.has thread.state then settle steps here fuel seen more ahead
    else
      let seen := seen.insert thread.state
      match steps[thread.state]? with
      | none => settle steps here fuel seen more ahead
      | some .accept => ⟨ahead.reverse, some thread⟩
      | some (.pass next) => settle steps here fuel seen (thread.moved next :: more) ahead
      | some (.read members next) =>
        if here.rest.head?.any members.has then
          settle steps here fuel seen more (thread.moved next :: ahead)
        else settle steps here fuel seen more ahead
      | some (.check condition next) =>
        if condition.holds here then settle steps here fuel seen (thread.moved next :: more) ahead
        else settle steps here fuel seen more ahead
      | some (.note slot next) =>
        let noted : Thread := ⟨next, thread.start, (slot, here.pos) :: thread.slots⟩
        settle steps here fuel seen (noted :: more) ahead
      | some (.fork first second) =>
        settle steps here fuel seen (thread.moved first :: thread.moved second :: more) ahead

def ofThreads (steps : Array Step) (here : Cursor) (threads : List Thread) : Settled :=
  settle steps here (threads.length + 2 * steps.size) (Marks.none steps.size) threads []

end Settled

namespace Automaton

/-- Searches from a place on. As long as nothing is accepted, a thread may also begin at every
further place, and is then less preferred than all that began before it. `best` is the match of
the most preferred thread accepted so far. -/
def searchFrom (steps : Array Step) :
    Option Match → List Thread → Nat → Option Char → Text → Option Match
  | best, threads, pos, prev, rest =>
    let begun := if best.isNone then threads ++ [⟨0, pos, []⟩] else threads
    let settled := Settled.ofThreads steps ⟨pos, prev, rest⟩ begun
    let best := (settled.accepted.map (Match.ofThread pos)).or best
    match rest with
    | [] => best
    | c :: rest =>
      if settled.ahead.isEmpty && best.isSome then best
      else searchFrom steps best settled.ahead (pos + 1) (some c) rest

/-- The leftmost match that begins at the cursor or later. -/
def search? (steps : Array Step) (here : Cursor) : Option Match :=
  searchFrom steps none [] here.pos here.prev here.rest

/-- Whether some thread is accepted, at this place or further on. The answer is known at the first
one, so neither its match nor what is preferred to it is followed to the end. -/
def acceptsFrom (steps : Array Step) : List Thread → Nat → Option Char → Text → Bool
  | threads, pos, prev, rest =>
    let settled := Settled.ofThreads steps ⟨pos, prev, rest⟩ (threads ++ [⟨0, pos, []⟩])
    settled.accepted.isSome ||
      match rest with
      | [] => false
      | c :: rest => acceptsFrom steps settled.ahead (pos + 1) (some c) rest

/-- Whether a match begins at the cursor or later. -/
def accepts (steps : Array Step) (here : Cursor) : Bool :=
  acceptsFrom steps [] here.pos here.prev here.rest

/-- A probe for matches. An empty match directly behind the previous match is passed over. -/
def probe (steps : Array Step) (behind : Bool) (here : Cursor) : Probe Match :=
  match search? steps here with
  | none => .halt
  | some found =>
    if behind && found.span.stop = here.pos then .miss else .hit found found.span.stop

end Automaton

namespace Pattern

def find? (pattern : Pattern) (text : Text) : Option Match :=
  Automaton.search? pattern.automaton (Cursor.start text)

def isMatch (pattern : Pattern) (text : Text) : Bool :=
  Automaton.accepts pattern.automaton (Cursor.start text)

/-- All matches in a text, from left to right and without overlap. -/
def findAll (pattern : Pattern) (text : Text) : List Match :=
  sweep (Automaton.probe pattern.automaton) text

end Pattern

end Recast
