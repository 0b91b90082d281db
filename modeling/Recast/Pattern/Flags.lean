import Recast.Pattern
import Recast.Text.Blank

/-!
The settings that may be switched inside a pattern, and what they make of the signs whose meaning
depends on them.
-/

namespace Recast

inductive Flag where
  | ignoreCase
  | multiLine
  | dotAll
  | swapLazy
  | unicode
  | crlf
  | verbose
deriving DecidableEq, Repr

namespace Flag

def ofChar? : Char → Option Flag
  | 'i' => some ignoreCase
  | 'm' => some multiLine
  | 's' => some dotAll
  | 'U' => some swapLazy
  | 'u' => some unicode
  | 'R' => some crlf
  | 'x' => some verbose
  | _ => none

end Flag

/-- The flags that a group or a flag item switches, in the order written. -/
abbrev Switches := List (Flag × Bool)

structure Flags where
  ignoreCase : Bool
  multiLine : Bool
  dotAll : Bool
  swapLazy : Bool
  unicode : Bool
  crlf : Bool
  verbose : Bool
deriving DecidableEq, Repr

namespace Flags

def initial : Flags := ⟨false, false, false, false, true, false, false⟩

def set (flags : Flags) : Flag → Bool → Flags
  | .ignoreCase, on => { flags with ignoreCase := on }
  | .multiLine, on => { flags with multiLine := on }
  | .dotAll, on => { flags with dotAll := on }
  | .swapLazy, on => { flags with swapLazy := on }
  | .unicode, on => { flags with unicode := on }
  | .crlf, on => { flags with crlf := on }
  | .verbose, on => { flags with verbose := on }

def apply (flags : Flags) (switches : Switches) : Flags :=
  switches.foldl (fun flags s => flags.set s.1 s.2) flags

def alphabet (flags : Flags) : Alphabet := if flags.unicode then .unicode else .ascii

def lineBreak (flags : Flags) : LineBreak := if flags.crlf then .crlf else .lf

def members (flags : Flags) (k : CharClass) : CharClass :=
  let k := if flags.ignoreCase then k.ignoreCase else k
  if flags.unicode then k else .narrow k

def character (flags : Flags) (c : Char) : CharClass :=
  if flags.ignoreCase && (flags.unicode || c.toNat < 0x80) then flags.members (.single c)
  else .single c

/-- What a dot stands for. Without the wide alphabet it would cut characters apart. -/
def dot? (flags : Flags) : Option CharClass :=
  if !flags.unicode then none
  else if flags.dotAll then some .any
  else if flags.crlf then some (.neg (.either (.single '\n') (.single '\r')))
  else some (.neg (.single '\n'))

/-- Drops white space and comments. A comment begins at a number sign and goes on to the end of its
line; the first argument tells whether the text begins inside one. -/
def skipGap : Bool → Text → Text
  | _, [] => []
  | true, c :: rest => skipGap (c != '\n') rest
  | false, c :: rest =>
    if Text.isBlank c then skipGap false rest
    else if c = '#' then skipGap true rest
    else c :: rest

/-- What comes next in a pattern: a verbose one may have white space and comments before it. -/
def skip (flags : Flags) (text : Text) : Text :=
  if flags.verbose then skipGap false text else text

end Flags

end Recast
