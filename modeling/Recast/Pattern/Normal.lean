import Recast.Pattern

/-!
The normal form in which patterns are built. Sequences and alternatives are flat, repetitions that
cannot matter are gone, alternatives of single characters are one class, and a beginning that all
alternatives share is written once, before them. The last of these decides between matches: what
the shared beginning prefers then comes before the order of the alternatives.
-/

namespace Recast.Pattern

def parts : Pattern → List Pattern
  | empty => []
  | seq first second => first :: second.parts
  | pattern => [pattern]

def branches : Pattern → List Pattern
  | alt first second => first :: second.branches
  | pattern => [pattern]

def sequence (patterns : List Pattern) : Pattern := ofList (patterns.flatMap parts)

/-- A repetition. A body that never consumes anything is not repeated more than once. -/
def times (body : Pattern) (bounds : Bounds) : Pattern :=
  let bounds : Bounds :=
    if body.zeroWidth then
      { bounds with least := min bounds.least 1, most := some ((bounds.most.map (min 1)).getD 1) }
    else bounds
  if bounds.most = some 0 then empty
  else if bounds.least = 1 && bounds.most = some 1 then body
  else repeated body bounds

def literal? : Pattern → Option Char
  | char members => members.only?
  | _ => none

def class? : Pattern → Option CharClass
  | char members => if members.only?.isSome then none else some members
  | _ => none

def same : Pattern → Pattern → Bool
  | empty, empty => true
  | char k, char k' => k.same k'
  | look condition, look condition' => condition = condition'
  | group index body, group index' body' => index = index' && body.same body'
  | seq first second, seq first' second' => first.same first' && second.same second'
  | alt first second, alt first' second' => first.same first' && second.same second'
  | repeated body bounds, repeated body' bounds' => bounds = bounds' && body.same body'
  | _, _ => false

/-- The parts of a sequence with neighbouring literal characters taken together: plain text is one
piece. -/
def pieces : List Pattern → List (List Pattern)
  | [] => []
  | part :: more =>
    match part.literal?, pieces more with
    | some _, (next :: run) :: others =>
      if next.literal?.isSome then (part :: next :: run) :: others
      else [part] :: (next :: run) :: others
    | _, others => [part] :: others

def sameParts : List Pattern → List Pattern → Bool
  | [], [] => true
  | part :: more, part' :: more' => part.same part' && sameParts more more'
  | _, _ => false

def sharedLead : List (List Pattern) → List (List Pattern) → Nat
  | piece :: more, piece' :: more' =>
    if sameParts piece piece' then sharedLead more more' + 1 else 0
  | _, _ => 0

def sharedByAll : List (List (List Pattern)) → Nat
  | [] => 0
  | row :: rows =>
    if (row :: rows).all fun row => 2 ≤ row.length then
      rows.foldl (fun n other => min n (sharedLead row other)) row.length
    else 0

/-- Alternatives in order of preference. The fuel bounds how often a shared beginning is taken out;
each time the alternatives get shorter. -/
def alternativesWith : Nat → List Pattern → Pattern
  | 0, patterns => choice patterns
  | fuel + 1, patterns =>
    let patterns := patterns.flatMap branches
    let literals := patterns.filterMap literal?
    let classes := patterns.filterMap class?
    let rows := patterns.map fun pattern => pieces pattern.parts
    let shared := sharedByAll rows
    match patterns, rows with
    | _ :: _ :: _, row :: _ =>
      if literals.length = patterns.length then char (.union (literals.map .single))
      else if classes.length = patterns.length then char (.union classes)
      else if shared = 0 then choice patterns
      else
        sequence ((row.take shared).flatten ++
          [alternativesWith fuel (rows.map fun row => ofList (row.drop shared).flatten)])
    | _, _ => choice patterns

def nodes : Pattern → Nat
  | empty => 1
  | char _ => 1
  | look _ => 1
  | group _ body => body.nodes + 1
  | seq first second => first.nodes + second.nodes + 1
  | alt first second => first.nodes + second.nodes + 1
  | repeated body _ => body.nodes + 1

def alternatives (patterns : List Pattern) : Pattern :=
  alternativesWith ((patterns.map nodes).foldl (· + ·) 0 + 1) patterns

end Recast.Pattern
