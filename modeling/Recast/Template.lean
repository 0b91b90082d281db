import Recast.Pattern.Regex

/-!
Replacement templates. A dollar sign followed by a name, or by anything in braces, refers to a
group of the match; two dollar signs stand for one; any other dollar sign stands for itself.
-/

namespace Recast.Template

inductive Piece where
  | plain (c : Char)
  | numbered (index : Nat)
  | named (label : Text)
deriving DecidableEq, Repr

def isLabelChar (c : Char) : Bool := c.isAlphanum || c = '_'

def Piece.ofLabel (label : Text) : Piece :=
  let digits := (Text.stripStart? ['+'] label).getD label
  if !digits.isEmpty && digits.all Char.isDigit then
    numbered (digits.foldl (fun n c => 10 * n + (c.toNat - '0'.toNat)) 0)
  else named label

/-- The parts of a template. Each takes at least one character, so the fuel of its length
suffices. -/
def pieces : Nat → Text → List Piece
  | 0, _ => []
  | _, [] => []
  | fuel + 1, '$' :: '$' :: rest => .plain '$' :: pieces fuel rest
  | fuel + 1, '$' :: '\x7b' :: rest =>
    match Text.splitOnce? ['\x7d'] rest with
    | some (label, after) => Piece.ofLabel label :: pieces fuel after
    | none => .plain '$' :: pieces fuel ('\x7b' :: rest)
  | fuel + 1, '$' :: rest =>
    let label := rest.takeWhile isLabelChar
    if label.isEmpty then .plain '$' :: pieces fuel rest
    else Piece.ofLabel label :: pieces fuel (rest.dropWhile isLabelChar)
  | fuel + 1, c :: rest => .plain c :: pieces fuel rest

/-- What a part stands for at a match. A group that is unknown or took no part is empty. -/
def Piece.render (regex : Regex) (found : Match) (text : Text) : Piece → Text
  | plain c => [c]
  | numbered index => ((found.group? index).map (·.slice text)).getD []
  | named label =>
    (((regex.groupNamed? label).bind found.group?).map (·.slice text)).getD []

def expand (regex : Regex) (template : Text) (found : Match) (text : Text) : Text :=
  (pieces template.length template).flatMap (Piece.render regex found text)

end Recast.Template
