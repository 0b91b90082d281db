/-!
The UTF-8 form of ranges of characters. A range is cut into pieces whose encodings are exactly the
byte strings that follow a list of byte ranges, one range for each byte.
-/

namespace Recast.Text

def encode (n : Nat) : List Nat :=
  if n < 0x80 then [n]
  else if n < 0x800 then [0xC0 + n / 64, 0x80 + n % 64]
  else if n < 0x10000 then [0xE0 + n / 4096, 0x80 + n / 64 % 64, 0x80 + n % 64]
  else [0xF0 + n / 262144, 0x80 + n / 4096 % 64, 0x80 + n / 64 % 64, 0x80 + n % 64]

/-- Where a range has to be cut so that the last bytes become free: the first code point of the
second part. `unit` is how many code points share the bytes before the free ones. -/
def cutAt? (first last unit : Nat) : Option Nat :=
  if first / unit = last / unit then none
  else if first % unit ≠ 0 then some ((first / unit + 1) * unit)
  else if last % unit ≠ unit - 1 then some (last / unit * unit)
  else none

/-- The first place where a range has to be cut: where the length of the encoding changes, or where
the last one, two or three bytes are not free. -/
def cut? (first last : Nat) : Option Nat :=
  (([0x80, 0x800, 0x10000].find? fun n => first < n && n ≤ last).or
    (if last < 0x80 then none
      else (cutAt? first last 64).or ((cutAt? first last 4096).or (cutAt? first last 262144))))

/-- The byte ranges of a range of code points, in ascending order. The fuel bounds the number of
nested cuts; there are fewer than a dozen. -/
def byteRanges : Nat → Nat → Nat → List (List (Nat × Nat))
  | 0, first, last => [(encode first).zip (encode last)]
  | fuel + 1, first, last =>
    match cut? first last with
    | none => [(encode first).zip (encode last)]
    | some n => byteRanges fuel first (n - 1) ++ byteRanges fuel n last

def sharedLength {α : Type} [DecidableEq α] : List α → List α → Nat
  | a :: more, b :: more' => if a = b then sharedLength more more' + 1 else 0
  | _, _ => 0

end Recast.Text
