import Recast.Text.Word
import Recast.Text.Decimal
import Recast.Text.Blank
import Recast.Text.CaseFold

/-!
Classes of characters, closed under complement, union and intersection. A class is kept as it was
written; `places` lists its members in a normal form, so that two classes with the same members
can be recognised. A class that is written without the wide alphabet is of another kind than one
with the same members that is written with it.
-/

namespace Recast

inductive CharClass where
  | any
  | range (first last : Char)
  | listed (ranges : List (Nat × Nat))
  | word
  | decimal
  | blank
  | neg (inner : CharClass)
  | either (left right : CharClass)
  | both (left right : CharClass)
  | narrow (inner : CharClass)
deriving DecidableEq, Repr

namespace CharClass

def inRange (first last c : Char) : Bool :=
  first.toNat ≤ c.toNat && c.toNat ≤ last.toNat

def has : CharClass → Char → Bool
  | any, _ => true
  | range first last, c => inRange first last c
  | listed ranges, c => Text.inRanges ranges c.toNat
  | word, c => Text.isWord c
  | decimal, c => Text.isDecimal c
  | blank, c => Text.isBlank c
  | neg inner, c => !inner.has c
  | either left right, c => left.has c || right.has c
  | both left right, c => left.has c && right.has c
  | narrow inner, c => c.toNat < 0x80 && inner.has c

def single (c : Char) : CharClass := range c c

def none : CharClass := neg any

def ascii : CharClass := range '\x00' '\x7f'

def minus (left right : CharClass) : CharClass := both left (neg right)

def oneOf (left right : CharClass) : CharClass :=
  either (minus left right) (minus right left)

def union : List CharClass → CharClass
  | [] => none
  | [k] => k
  | k :: more => either k (union more)

def ofRanges (ranges : List (Char × Char)) : CharClass :=
  union (ranges.map fun r => range r.1 r.2)

def named? (name : String) : Option CharClass :=
  match name with
  | "alnum" => some (ofRanges [('0', '9'), ('A', 'Z'), ('a', 'z')])
  | "alpha" => some (ofRanges [('A', 'Z'), ('a', 'z')])
  | "ascii" => some ascii
  | "blank" => some (ofRanges [('\t', '\t'), (' ', ' ')])
  | "cntrl" => some (ofRanges [('\x00', '\x1f'), ('\x7f', '\x7f')])
  | "digit" => some (range '0' '9')
  | "graph" => some (range '!' '~')
  | "lower" => some (range 'a' 'z')
  | "print" => some (range ' ' '~')
  | "punct" => some (ofRanges [('!', '/'), (':', '@'), ('[', '\x60'), ('\x7b', '~')])
  | "space" => some (ofRanges [('\t', '\r'), (' ', ' ')])
  | "upper" => some (range 'A' 'Z')
  | "word" => some (ofRanges [('0', '9'), ('A', 'Z'), ('_', '_'), ('a', 'z')])
  | "xdigit" => some (ofRanges [('0', '9'), ('A', 'F'), ('a', 'f')])
  | _ => Option.none

/-- The place of a code point among the characters, which leave out the surrogates. -/
def place (n : Nat) : Nat := if n < 0xD800 then n else n - 0x800

def codeAt (place : Nat) : Nat := if place < 0xD800 then place else place + 0x800

def lastPlace : Nat := 0x10F7FF

def placesOf (ranges : List (Nat × Nat)) : List (Nat × Nat) :=
  ranges.foldr (fun range => Text.addRange (place range.1, place range.2)) []

def foldings : List (Nat × Nat) :=
  Text.foldings.map fun folding => (place folding.1, place folding.2)

/-- Adds the case variants of all members: first what members fold to, then everything that folds
to a member. -/
def variants (places : List (Nat × Nat)) : List (Nat × Nat) :=
  let foldedTo := (foldings.filter fun f => Text.inRanges places f.1).foldr
    (fun f => Text.addRange (f.2, f.2)) places
  (foldings.filter fun f => Text.inRanges foldedTo f.2).foldr
    (fun f => Text.addRange (f.1, f.1)) foldedTo

def sharedPlaces (left right : List (Nat × Nat)) : List (Nat × Nat) :=
  Text.otherRanges 0 lastPlace
    (Text.unionRanges (Text.otherRanges 0 lastPlace left) (Text.otherRanges 0 lastPlace right))

def places : CharClass → List (Nat × Nat)
  | any => [(0, lastPlace)]
  | range first last =>
    if first.toNat ≤ last.toNat then [(place first.toNat, place last.toNat)] else []
  | listed ranges => placesOf ranges
  | word => placesOf Text.wordRanges
  | decimal => placesOf ((0x30, 0x39) :: Text.decimalRanges)
  | blank => placesOf Text.blankRanges
  | neg inner => Text.otherRanges 0 lastPlace inner.places
  | either left right => Text.unionRanges left.places right.places
  | both left right => sharedPlaces left.places right.places
  | narrow inner => sharedPlaces [(0, 0x7F)] inner.places

def folded (k : CharClass) : CharClass :=
  listed ((variants k.places).map fun range => (codeAt range.1, codeAt range.2))

/-- The class up to case. Word characters, digits and white space are closed under case already;
a complement is taken after folding. -/
def ignoreCase : CharClass → CharClass
  | any => any
  | range first last => folded (range first last)
  | listed ranges => folded (listed ranges)
  | word => word
  | decimal => decimal
  | blank => blank
  | neg inner => neg inner.ignoreCase
  | either left right => either left.ignoreCase right.ignoreCase
  | both left right => both left.ignoreCase right.ignoreCase
  | narrow inner => narrow inner.ignoreCase

def only? : CharClass → Option Char
  | any => Option.none
  | word => Option.none
  | decimal => Option.none
  | blank => Option.none
  | range first last => if first = last then some first else Option.none
  | k =>
    match k.places with
    | [(first, last)] => if first = last then some (Char.ofNat (codeAt first)) else Option.none
    | _ => Option.none

def isEmpty : CharClass → Bool
  | any => false
  | word => false
  | decimal => false
  | blank => false
  | range first last => last.toNat < first.toNat
  | k => k.places.isEmpty

def isNarrow : CharClass → Bool
  | narrow _ => true
  | _ => false

/-- Whether two classes have the same members and are of the same kind. A class without members and
one with a single member are of either kind. -/
def same (left right : CharClass) : Bool :=
  left = right ||
    (left.places = right.places &&
      (left.isNarrow = right.isNarrow || left.isEmpty || left.only?.isSome))

end CharClass

end Recast
