/-!
Tables of characters in a compact written form. A table is a sequence of numbers: the gap before a
range and how many characters follow the first one of the range, in turn. A number is written in
digits of five bits, the lowest first, and a letter from the second half of the alphabet announces
a further digit.
-/

namespace Recast.Text

structure Property where
  names : List String
  table : List String
deriving DecidableEq, Repr

namespace Property

def digit (c : Char) : Nat :=
  if 'A' ≤ c && c ≤ 'Z' then c.toNat - 'A'.toNat
  else if 'a' ≤ c && c ≤ 'z' then c.toNat - 'a'.toNat + 26
  else if '0' ≤ c && c ≤ '9' then c.toNat - '0'.toNat + 52
  else if c = '_' then 62
  else 63

/-- The numbers that letters spell. `value` is what the digits so far amount to and `unit` what
the next digit counts. -/
def numbers : Nat → Nat → List Char → List Nat
  | _, _, [] => []
  | value, unit, c :: rest =>
    if digit c < 32 then (value + unit * digit c) :: numbers 0 1 rest
    else numbers (value + unit * (digit c - 32)) (32 * unit) rest

def rangesFrom : Nat → List Nat → List (Nat × Nat)
  | start, gap :: more :: rest =>
    (start + gap, start + gap + more) :: rangesFrom (start + gap + more + 1) rest
  | _, _ => []

def ranges (property : Property) : List (Nat × Nat) :=
  rangesFrom 0 (numbers 0 1 (property.table.flatMap String.toList))

def named (property : Property) (name : String) : Bool := property.names.contains name

end Property

end Recast.Text
