import Recast.Pattern.Ways
import Recast.Pattern.Words

/-!
The order in which the states of an automaton for a pattern come about. Forward, the automaton
finds where a match ends and what its groups hold; backward, it finds where a match begins.
-/

namespace Recast

inductive Direction where
  | forward
  | backward
deriving DecidableEq, Repr

/-- The parts of an automaton in the order in which they are built. A class stands for what it
takes in the direction of the automaton. -/
inductive Plan (α : Type) where
  | states (part : Extent)
  | members (k : α)
  | next (first second : Plan α)
  | repeated (count : Nat) (body : Plan α)
deriving DecidableEq, Repr

namespace Plan

def ofStates {α : Type} (count held : Nat) : Plan α := states (.ofStates count held)

def map {α β : Type} (f : α → β) : Plan α → Plan β
  | states part => states part
  | members k => members (f k)
  | next first second => next (first.map f) (second.map f)
  | repeated count body => repeated count (body.map f)

def weigh {α : Type} (bytes : α → Nat) : Plan α → Nat
  | states part => part.bytes
  | members k => bytes k
  | next first second => first.weigh bytes + second.weigh bytes
  | repeated count body => count * body.weigh bytes

def build {α : Type} (add : α → Extent → Option Extent) : Plan α → Extent → Option Extent
  | states part, extent => extent.extend part
  | members k, extent => add k extent
  | next first second, extent =>
    match first.build add extent with
    | some extent => second.build add extent
    | none => none
  | repeated count body, extent => Extent.repeated (body.build add) count extent

def chain {α : Type} : List (Plan α) → Plan α
  | [] => ofStates 0 0
  | [plan] => plan
  | plan :: more => next plan (chain more)

def fork {α : Type} : List (Plan α) → Plan α
  | first :: second :: more =>
    chain (first :: second :: ofStates 2 (4 * (more.length + 2)) :: more)
  | plans => chain plans

end Plan

/-- The plan for a class. A single character has a state for each of its bytes, and a class of ASCII
characters has a state for all its ways on. -/
def CharClass.plan : CharClass → Plan CharClass
  | word => .members word
  | k =>
    match k.only? with
    | some c => .ofStates c.utf8Size 0
    | Option.none =>
      let ranges := k.codeRanges
      if ranges.all fun range => range.2 < 0x80 then .ofStates 2 (8 * ranges.length)
      else .members k

namespace Pattern

def planTimes (bounds : Bounds) (consumes : Bool) (body : Plan CharClass) : Plan CharClass :=
  match bounds.most, bounds.least with
  | some 1, 0 => .chain [.ofStates 1 8, body, .ofStates 1 0]
  | some most, least =>
    if most = least then .repeated least body
    else
      .chain [if least = 0 then .ofStates 1 0 else .repeated least body, .ofStates 1 0,
        .repeated (most - least) (.next (.ofStates 1 8) body)]
  | none, 0 =>
    if consumes then .next (.ofStates 1 8) body else .next body (.ofStates 3 16)
  | none, least => .next (.repeated least body) (.ofStates 1 8)

def planAlone (direction : Direction) (pattern : Pattern) (branches : List (Plan CharClass)) :
    Plan CharClass :=
  match direction, pattern.words? with
  | .forward, some words => .states (Words.extent words)
  | .backward, some words => .states (Words.extent (words.map List.reverse))
  | _, none => .fork branches

def branchPlans (direction : Direction) : Pattern → List (Plan CharClass)
  | empty => [.ofStates 1 0]
  | char members => [members.plan]
  | look _ => [.ofStates 1 0]
  | group _ body =>
    let plan := planAlone direction body (body.branchPlans direction)
    match direction with
    | .forward => [.chain [.ofStates 1 0, plan, .ofStates 1 0]]
    | .backward => [plan]
  | seq first second =>
    let before := planAlone direction first (first.branchPlans direction)
    let behind := planAlone direction second (second.branchPlans direction)
    match direction with
    | .forward => [.next before behind]
    | .backward => [.next behind before]
  | alt first second =>
    planAlone direction first (first.branchPlans direction) :: second.branchPlans direction
  | repeated body bounds =>
    [planTimes bounds body.consumes (planAlone direction body (body.branchPlans direction))]

def startsText : Pattern → Bool
  | empty => false
  | char _ => false
  | look condition => condition = .textStart
  | group _ body => body.startsText
  | seq first second => first.startsText || (first.zeroWidth && second.startsText)
  | alt first second => first.startsText && second.startsText
  | repeated body bounds => 0 < bounds.least && body.startsText

def endsText : Pattern → Bool
  | empty => false
  | char _ => false
  | look condition => condition = .textEnd
  | group _ body => body.endsText
  | seq first second => second.endsText || (second.zeroWidth && first.endsText)
  | alt first second => first.endsText && second.endsText
  | repeated body bounds => 0 < bounds.least && body.endsText

/-- The plan for a whole pattern. A match that is bound to the side from which the automaton reads
begins there; otherwise a loop leads to where it begins. The whole match counts as a group. -/
def plan (direction : Direction) (pattern : Pattern) : Plan CharClass :=
  let body := planAlone direction pattern (pattern.branchPlans direction)
  let bound :=
    match direction with
    | .forward => pattern.startsText
    | .backward => pattern.endsText
  let start := if bound then .ofStates 1 0 else .ofStates 3 16
  match direction with
  | .forward => .chain [start, .ofStates 1 0, body, .ofStates 2 0]
  | .backward => .chain [start, body, .ofStates 1 0]

end Pattern

end Recast
