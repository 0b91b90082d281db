import Recast.Text.Property

/-!
Letters and numbers as the names of groups may use them. Names follow the newest edition of the
character standard, so they know a few scripts more than the property tables do.
-/

namespace Recast.Text

def recentLetters : List (Nat × Nat) :=
  [(0x88F, 0x88F), (0xC5C, 0xC5C), (0xCDC, 0xCDC), (0xA7CE, 0xA7CF), (0xA7D2, 0xA7D2),
   (0xA7D4, 0xA7D4), (0xA7F1, 0xA7F1), (0x10940, 0x10959), (0x10EC5, 0x10EC7),
   (0x10EFA, 0x10EFB), (0x11B60, 0x11B67), (0x11DB0, 0x11DDB), (0x16EA0, 0x16EB8),
   (0x16EBB, 0x16ED3), (0x16FF2, 0x16FF6), (0x187F8, 0x187FF), (0x18D09, 0x18D1E),
   (0x18D80, 0x18DF2), (0x1E6C0, 0x1E6DE), (0x1E6E0, 0x1E6F5), (0x1E6FE, 0x1E6FF),
   (0x2B73A, 0x2B73F), (0x2CEA2, 0x2CEAD), (0x323B0, 0x33479)]

def recentNumbers : List (Nat × Nat) := [(0x11DE0, 0x11DE9), (0x16FF4, 0x16FF6)]

def hasProperty (name : String) (c : Char) : Bool :=
  ((Property.ofName? name.toList).getD []).any fun range =>
    range.1 ≤ c.toNat && c.toNat ≤ range.2

def isLetter (c : Char) : Bool :=
  if c.toNat < 0x80 then c.isAlpha
  else hasProperty "alpha" c || inRanges recentLetters c.toNat

def isLetterOrNumber (c : Char) : Bool :=
  if c.toNat < 0x80 then c.isAlphanum
  else isLetter c || hasProperty "n" c || inRanges recentNumbers c.toNat

end Recast.Text
