import Recast.Pattern.CharClass

/-!
Patterns over text: regular expressions with numbered groups, zero-width conditions and bounded or
unbounded repetition that prefers more or fewer rounds.
-/

namespace Recast

inductive Alphabet where
  | unicode
  | ascii
deriving DecidableEq, Repr

inductive LineBreak where
  | lf
  | crlf
deriving DecidableEq, Repr

inductive Look where
  | textStart
  | textEnd
  | lineStart (lineBreak : LineBreak)
  | lineEnd (lineBreak : LineBreak)
  | wordEdge (alphabet : Alphabet)
  | noWordEdge (alphabet : Alphabet)
  | wordStart (alphabet : Alphabet)
  | wordEnd (alphabet : Alphabet)
  | noWordBefore (alphabet : Alphabet)
  | noWordAfter (alphabet : Alphabet)
deriving DecidableEq, Repr

structure Bounds where
  least : Nat
  most : Option Nat
  lazy : Bool
deriving DecidableEq, Repr

inductive Pattern where
  | empty
  | char (members : CharClass)
  | look (condition : Look)
  | group (index : Nat) (body : Pattern)
  | seq (first second : Pattern)
  | alt (first second : Pattern)
  | repeated (body : Pattern) (bounds : Bounds)
deriving DecidableEq, Repr

namespace Pattern

def ofList : List Pattern → Pattern
  | [] => empty
  | [p] => p
  | p :: more => seq p (ofList more)

def choice : List Pattern → Pattern
  | [] => empty
  | [p] => p
  | p :: more => alt p (choice more)

/-- The length of the shortest text that a pattern matches; `none` if a part of it matches no text
at all. -/
def leastLength : Pattern → Option Nat
  | empty => some 0
  | char members => if members.isEmpty then none else some 1
  | look _ => some 0
  | group _ body => body.leastLength
  | seq first second => do
    let n ← first.leastLength
    let m ← second.leastLength
    pure (n + m)
  | alt first second => do
    let n ← first.leastLength
    let m ← second.leastLength
    pure (min n m)
  | repeated body bounds => body.leastLength.map (· * bounds.least)

def consumes (pattern : Pattern) : Bool := pattern.leastLength.any (0 < ·)

def zeroWidth : Pattern → Bool
  | empty => true
  | char _ => false
  | look _ => true
  | group _ body => body.zeroWidth
  | seq first second => first.zeroWidth && second.zeroWidth
  | alt first second => first.zeroWidth && second.zeroWidth
  | repeated body _ => body.zeroWidth

end Pattern

end Recast
