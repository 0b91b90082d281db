import Recast.Diff.Script

/-!
Moving edits within a script so that neighbouring edits fall together. An edit may move over kept
elements that repeat at its other end, past an edit of the other kind, and into an edit of its own
kind. None of these changes the lists between which the script leads.
-/

namespace Recast.Diff

inductive EditKind where
  | delete
  | insert
deriving DecidableEq, Repr

namespace EditKind

def run {α : Type} : EditKind → List α → Run α
  | delete, items => .delete items
  | insert, items => .insert items

end EditKind

inductive Neighbour (α : Type) where
  | kept (items : List α)
  | same (items : List α)
  | other
deriving Repr

namespace EditKind

def sees {α : Type} : EditKind → Run α → Neighbour α
  | _, .keep items => .kept items
  | delete, .delete items => .same items
  | insert, .insert items => .same items
  | delete, .insert _ => .other
  | insert, .delete _ => .other

end EditKind

variable {α : Type} [DecidableEq α]

/-- A script with one edit in focus. The runs before it are listed from the nearest. -/
structure Focus (α : Type) where
  before : List (Run α)
  items : List α
  after : List (Run α)

namespace Focus

def keepFirst (items : List α) : List (Run α) → List (Run α)
  | .keep more :: rest => .keep (items ++ more) :: rest
  | runs => .keep items :: runs

def keepLast (items : List α) : List (Run α) → List (Run α)
  | .keep more :: rest => .keep (more ++ items) :: rest
  | runs => .keep items :: runs

def putBack (items : List α) (runs : List (Run α)) : List (Run α) :=
  if items.isEmpty then runs else .keep items :: runs

/-- Moves the edit up as far as it goes. Every step takes elements or runs from those before it,
whose number bounds the fuel needed. -/
def up (kind : EditKind) : Nat → Focus α → Focus α
  | 0, focus => focus
  | fuel + 1, focus =>
    match focus.before with
    | [] => focus
    | run :: before =>
      match kind.sees run with
      | .kept items =>
        let n := sharedBack focus.items items
        if n = 0 then focus
        else
          let moved := items.drop (items.length - n)
          up kind fuel
            ⟨putBack (items.take (items.length - n)) before,
              moved ++ focus.items.take (focus.items.length - n),
              keepFirst moved focus.after⟩
      | .same items => up kind fuel ⟨before, items ++ focus.items, focus.after⟩
      | .other => up kind fuel ⟨before, focus.items, run :: focus.after⟩

def down (kind : EditKind) : Nat → Focus α → Focus α
  | 0, focus => focus
  | fuel + 1, focus =>
    match focus.after with
    | [] => focus
    | run :: after =>
      match kind.sees run with
      | .kept items =>
        let n := sharedFront focus.items items
        if n = 0 then focus
        else
          let moved := items.take n
          down kind fuel
            ⟨keepLast moved focus.before, focus.items.drop n ++ moved,
              putBack (items.drop n) after⟩
      | .same items => down kind fuel ⟨focus.before, focus.items ++ items, after⟩
      | .other => down kind fuel ⟨run :: focus.before, focus.items, after⟩

def size (runs : List (Run α)) : Nat :=
  (runs.map fun run => run.old.length + run.new.length + 1).foldl (· + ·) 0

def settle (kind : EditKind) (focus : Focus α) : Focus α :=
  let raised := up kind (size focus.before) focus
  down kind (size raised.after) raised

end Focus

def focusNext (kind : EditKind) (before : List (Run α)) : List (Run α) → Option (Focus α)
  | [] => none
  | run :: after =>
    match kind.sees run with
    | .same items => some ⟨before, items, after⟩
    | .kept _ => focusNext kind (run :: before) after
    | .other => focusNext kind (run :: before) after

/-- Settles every edit of a kind, from the first on. Each round leaves fewer of them to come. -/
def settleAll (kind : EditKind) : Nat → List (Run α) → List (Run α) → Script α
  | 0, before, after => before.reverse ++ after
  | fuel + 1, before, after =>
    match focusNext kind before after with
    | none => before.reverse ++ after
    | some focus =>
      let settled := focus.settle kind
      settleAll kind fuel (kind.run settled.items :: settled.before) settled.after

def compact (script : Script α) : Script α :=
  let settled := settleAll .delete script.length [] script
  settleAll .insert settled.length [] settled

end Recast.Diff
