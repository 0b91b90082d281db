import Recast.Pattern.CharClass
import Recast.Pattern.Extent
import Recast.Text.Encoding

/-!
What a class of characters takes in an automaton over bytes. Read forward, the encodings of its
members branch from their first byte on, and states with the same ways on are one. Read backward,
every sequence of byte ranges is a path of its own until it comes to a state that an earlier one
went through.
-/

namespace Recast

abbrev ByteRange := Nat × Nat

namespace CharClass

def codeRanges (k : CharClass) : List (Nat × Nat) :=
  k.places.flatMap fun range =>
    if range.1 < 0xD800 && 0xD800 ≤ range.2 then
      [(range.1, 0xD7FF), (codeAt 0xD800, codeAt range.2)]
    else [(codeAt range.1, codeAt range.2)]

def paths (k : CharClass) : List (List ByteRange) :=
  k.codeRanges.flatMap fun range => Text.byteRanges 24 range.1 range.2

/-- How many paths the class of word characters has. The class is large, so the number is written
down. -/
def wordPaths : Nat := 995

theorem length_paths_word : word.paths.length = wordPaths := by decide +kernel

/-- More bytes than the class takes in either direction: a path has at most four ranges, each with a
state, a way on and its share of a fork. -/
def bound : CharClass → Nat
  | word => 64 + 132 * wordPaths
  | k => 64 + 132 * k.paths.length

end CharClass

/-- The ways on from a state in ascending order: the bytes that lead on, what lies below, and the
further ways. Where there is nothing below, an encoding ends. -/
inductive Ways where
  | stop
  | way (bytes : ByteRange) (below next : Ways)
deriving DecidableEq, Repr

namespace Ways

def add : List ByteRange → Ways → Ways
  | [], ways => ways
  | bytes :: more, stop => way bytes (add more stop) stop
  | bytes :: more, way bytes' below next =>
    if bytes = bytes' then way bytes' (add more below) next
    else way bytes (add more stop) (way bytes' below next)

def ofPaths (paths : List (List ByteRange)) : Ways := paths.foldr add stop

/-- Builds all states below a state and answers with what describes that state: its ways, each by
the bytes and the state they lead to. -/
def describe (goal : Nat) : Ways → Construction → Option (List Nat × Construction)
  | stop, sofar => some ([], sofar)
  | way bytes below next, sofar => do
    let (target, sofar) ←
      match below with
      | stop => some (goal, sofar)
      | below => do
        let (key, sofar) ← below.describe goal sofar
        sofar.state key (8 * (key.length / 3))
    let (key, sofar) ← next.describe goal sofar
    pure (bytes.1 :: bytes.2 :: target :: key, sofar)

def build (ways : Ways) (extent : Extent) : Option Extent := do
  let goal := extent.states
  let extent ← extent.extend (.ofStates 1 0)
  let (key, sofar) ← ways.describe goal ⟨extent, .blank 10000⟩
  let (_, sofar) ← sofar.state key (8 * (key.length / 3))
  pure sofar.extent

end Ways

namespace Paths

def follow : List ByteRange → Nat → Construction → Option (Nat × Construction)
  | [], state, sofar => some (state, sofar)
  | bytes :: more, state, sofar =>
    match sofar.state [state, bytes.1, bytes.2] 0 with
    | some (state, sofar) => follow more state sofar
    | none => none

def followAll (goal : Nat) : List (List ByteRange) → Construction → Option Construction
  | [], sofar => some sofar
  | path :: more, sofar =>
    match follow path goal sofar with
    | some (_, sofar) =>
      match sofar.extent.extend (.ofStates 0 4) with
      | some extent => followAll goal more { sofar with extent := extent }
      | none => none
    | none => none

def build (paths : List (List ByteRange)) (extent : Extent) : Option Extent := do
  let goal := extent.states + 1
  let extent ← extent.extend (.ofStates 2 0)
  let sofar ← followAll goal paths ⟨extent, .blank 1000⟩
  pure sofar.extent

end Paths

end Recast
