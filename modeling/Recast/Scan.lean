import Recast.Text

/-!
Left-to-right scans. A cursor is a place in a text that still sees the character before it; a
sweep walks the cursor over a text once and collects non-overlapping hits. The recursion is on the
text that remains, so a sweep ends on every input without a bound of its own.
-/

namespace Recast

/-- The characters from offset `start` up to, and without, offset `stop`. -/
structure Span where
  start : Nat
  stop : Nat
deriving DecidableEq, Repr

namespace Span

def slice (span : Span) (text : Text) : Text :=
  (text.drop span.start).take (span.stop - span.start)

def inBytes (span : Span) (offsets : Array Nat) : Span :=
  ⟨offsets.getD span.start 0, offsets.getD span.stop 0⟩

end Span

structure Cursor where
  pos : Nat
  prev : Option Char
  rest : Text
deriving DecidableEq, Repr

namespace Cursor

def start (text : Text) : Cursor := ⟨0, none, text⟩

end Cursor

/-- What is found from a cursor on: nothing at this place, a hit together with the offset where the
search goes on, or a reason to end the whole sweep. -/
inductive Probe (α : Type) where
  | miss
  | hit (found : α) (resume : Nat)
  | halt
deriving Repr

/-- Collects hits from left to right. `skip` characters are passed over first. The probe is told
whether the cursor stands directly behind the previous hit, which an empty hit does not count as;
after an empty hit the sweep moves on by one character. -/
def sweepFrom {α : Type} (probe : Bool → Cursor → Probe α) :
    Nat → Bool → Nat → Option Char → Text → List α
  | 0, behind, pos, prev, [] =>
    match probe behind ⟨pos, prev, []⟩ with
    | .hit found _ => [found]
    | .miss => []
    | .halt => []
  | _ + 1, _, _, _, [] => []
  | skip + 1, behind, pos, _, c :: rest => sweepFrom probe skip behind (pos + 1) (some c) rest
  | 0, behind, pos, prev, c :: rest =>
    match probe behind ⟨pos, prev, c :: rest⟩ with
    | .miss => sweepFrom probe 0 false (pos + 1) (some c) rest
    | .halt => []
    | .hit found resume =>
      if resume ≤ pos then found :: sweepFrom probe 0 false (pos + 1) (some c) rest
      else found :: sweepFrom probe (resume - pos - 1) true (pos + 1) (some c) rest

def sweep {α : Type} (probe : Bool → Cursor → Probe α) (text : Text) : List α :=
  sweepFrom probe 0 false 0 none text

/-- Replaces the given spans, which ascend and do not overlap, by new text and keeps all the rest.
`pos` is the offset of the text in hand. -/
def spliceFrom (pos : Nat) (text : Text) : List (Span × Text) → Text
  | [] => text
  | (span, new) :: more =>
    text.take (span.start - pos) ++ new
      ++ spliceFrom span.stop (text.drop (span.stop - pos)) more

def splice (text : Text) (edits : List (Span × Text)) : Text :=
  spliceFrom 0 text edits

end Recast
