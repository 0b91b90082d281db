import Recast.Diff
import Recast.RuleSet
import Recast.Tree

/-!
Revisions of single files: a plan is made from what the file holds, shown as a diff, and committed
by writing the file only when its text changes.
-/

namespace Recast

structure Revision where
  before : Text
  after : Text
  fired : List String
deriving DecidableEq, Repr

namespace Revision

/-- A revision changes a file when the texts differ, whatever rules have fired on the way. -/
def changed (revision : Revision) : Bool := revision.before != revision.after

def diff (revision : Revision) (label : Text) : Text :=
  Diff.unified label revision.before revision.after

def ofText (rules : RuleSet) (text : Text) : Revision :=
  let applied := rules.apply text
  ⟨text, applied.content, applied.fired⟩

def plan (tree : Tree) (path : Text) (rules : RuleSet) : Except Fault Revision :=
  match tree.read path with
  | .error cause => .error (.read path cause)
  | .ok text => .ok (ofText rules text)

def commit (disk : Disk) (tree : Tree) (path : Text) (revision : Revision) :
    Except Fault (Bool × Tree) :=
  if revision.changed then
    match tree.write disk path revision.after with
    | .error cause => .error (.write path cause)
    | .ok tree => .ok (true, tree)
  else .ok (false, tree)

end Revision

end Recast
