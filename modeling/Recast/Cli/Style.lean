import Recast.Scan

/-!
Coloured output for terminals.
-/

namespace Recast.Cli

inductive Style where
  | bold
  | dimmed
  | red
  | green
  | cyan
  | boldGreen
  | boldYellow
  | boldBlue
  | boldCyan
deriving DecidableEq, Repr

namespace Style

def codes : Style → String
  | bold => "1"
  | dimmed => "2"
  | red => "31"
  | green => "32"
  | cyan => "36"
  | boldGreen => "1;32"
  | boldYellow => "1;33"
  | boldBlue => "1;34"
  | boldCyan => "1;36"

def escape (codes : String) : Text := '\x1b' :: '[' :: codes.toList ++ ['m']

def reset : Text := escape "0"

/-- Sets the style again after every reset inside the text. The second argument counts characters
of a reset that are still to be copied. -/
def restore (style : Text) : Nat → Text → Text
  | _, [] => []
  | 0, c :: rest =>
    if reset.isPrefixOf (c :: rest) then c :: restore style (reset.length - 1) rest
    else c :: restore style 0 rest
  | 1, c :: rest => c :: style ++ restore style 0 rest
  | n + 2, c :: rest => c :: restore style (n + 1) rest

def paint (style : Style) (color : Bool) (text : Text) : Text :=
  if color then
    let start := escape style.codes
    start ++ restore start 0 text ++ reset
  else text

end Style

end Recast.Cli
