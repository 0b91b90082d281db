import Recast.Pattern.Budget
import Recast.Pattern.Matching
import Recast.Pattern.Normal
import Recast.Pattern.Token

/-!
Patterns with their written form. `Regex.read?` accepts a text exactly when its groups balance,
every repetition has something to repeat, every token is well formed and the pattern stays within
the limits on nesting and size; all it says about a text it refuses is that it is no pattern.
-/

namespace Recast

structure Piece where
  pattern : Pattern
  depth : Nat

namespace Piece

def depthOf : List Piece → Nat
  | [] => 0
  | [piece] => piece.depth
  | pieces => pieces.foldl (fun n piece => max n piece.depth) 0 + 1

end Piece

/-- A group that is still open, or the whole pattern: its number, the flags in force outside it,
the alternatives that are complete and the pieces of the current one, each latest first. -/
structure Level where
  index : Option Nat
  outside : Flags
  branches : List Piece
  pieces : List Piece

namespace Level

def bar (level : Level) : Level :=
  let branch : Piece :=
    ⟨.sequence (level.pieces.reverse.map (·.pattern)), Piece.depthOf level.pieces⟩
  { level with branches := branch :: level.branches, pieces := [] }

def body (level : Level) : Piece :=
  let branches := level.bar.branches
  ⟨.alternatives (branches.reverse.map (·.pattern)), Piece.depthOf branches⟩

def close (level : Level) : Piece :=
  let body := level.body
  match level.index with
  | some index => ⟨.group index body.pattern, body.depth + 1⟩
  | none => ⟨body.pattern, body.depth + 1⟩

end Level

structure Draft where
  level : Level
  enclosing : List Level
  flags : Flags
  groups : Nat
  names : List (Text × Nat)
  repeatable : Bool

namespace Draft

def initial : Draft :=
  ⟨⟨none, Flags.initial, [], []⟩, [], Flags.initial, 0, [], false⟩

def push (draft : Draft) (piece : Piece) : Draft :=
  { draft with
    level := { draft.level with pieces := piece :: draft.level.pieces }
    repeatable := true }

def pushLeaf (draft : Draft) (pattern : Pattern) : Draft := draft.push ⟨pattern, 0⟩

def enter (draft : Draft) (index : Option Nat) (flags : Flags) : Draft :=
  { draft with
    level := ⟨index, draft.flags, [], []⟩
    enclosing := draft.level :: draft.enclosing
    flags := flags
    repeatable := false }

/-- Takes up one token. A name may be given to one group only, and a repetition needs a piece
directly before it. -/
def take (draft : Draft) : Token → Option Draft
  | .char c => some (draft.pushLeaf (.char (draft.flags.character c)))
  | .dot => draft.flags.dot?.map fun k => draft.pushLeaf (.char k)
  | .lineStart =>
    some (draft.pushLeaf (.look
      (if draft.flags.multiLine then .lineStart draft.flags.lineBreak else .textStart)))
  | .lineEnd =>
    some (draft.pushLeaf (.look
      (if draft.flags.multiLine then .lineEnd draft.flags.lineBreak else .textEnd)))
  | .members k depth => some (draft.push ⟨.char (draft.flags.members k), depth⟩)
  | .look condition => some (draft.pushLeaf (.look condition))
  | .openGroup name =>
    let index := draft.groups + 1
    let entered := { draft.enter (some index) draft.flags with groups := index }
    match name with
    | none => some entered
    | some name =>
      if draft.names.any (·.1 = name) then none
      else some { entered with names := draft.names ++ [(name, index)] }
  | .openPlain switches => some (draft.enter none (draft.flags.apply switches))
  | .switch switches =>
    some { draft.pushLeaf .empty with
      flags := draft.flags.apply switches
      repeatable := false }
  | .close =>
    match draft.enclosing with
    | [] => none
    | level :: enclosing =>
      some ({ draft with
        level := level
        enclosing := enclosing
        flags := draft.level.outside }.push draft.level.close)
  | .bar => some { draft with level := draft.level.bar, repeatable := false }
  | .bounds b =>
    match draft.repeatable, draft.level.pieces with
    | true, piece :: pieces =>
      let b := { b with lazy := b.lazy != draft.flags.swapLazy }
      some ({ draft with level := { draft.level with pieces := pieces } }.push
        ⟨piece.pattern.times b, piece.depth + 1⟩)
    | _, _ => none

/-- Takes up a whole text, token by token. Each token takes at least one character, so the fuel of
the text's length suffices. -/
def takeAll : Nat → Draft → Text → Option Draft
  | 0, draft, text => if (draft.flags.skip text).isEmpty then some draft else none
  | fuel + 1, draft, text =>
    match draft.flags.skip text with
    | [] => some draft
    | text => do
      let (token, after) ← Token.read (fuel + 1) draft.flags text
      let draft ← draft.take token
      takeAll fuel draft after

end Draft

structure Regex where
  source : Text
  pattern : Pattern
  names : List (Text × Nat)
deriving DecidableEq, Repr

namespace Regex

def maxDepth : Nat := 250

def read? (source : Text) : Option Regex := do
  let draft ← Draft.initial.takeAll source.length source
  if !draft.enclosing.isEmpty then none
  let whole := draft.level.body
  if maxDepth < whole.depth then none
  let pattern ← whole.pattern.bounded?
  some ⟨source, pattern, draft.names⟩

def ofText (source : Text) (valid : (read? source).isSome = true := by decide +kernel) : Regex :=
  (read? source).get valid

def groupNamed? (regex : Regex) (name : Text) : Option Nat :=
  regex.names.lookup name

/-- The text with a backslash before every character that has a meaning in patterns. -/
def escape (text : Text) : Text :=
  text.flatMap fun c =>
    if "\\.+*?()|[]\x7b\x7d^$#&-~".toList.contains c then ['\\', c] else [c]

end Regex

end Recast
