import Recast.Path
import Recast.RuleSet

/-!
Transformations: which files of a project are revised, each by which rule set, and which files
are created when they are absent. A transformation is a plain value; running it is another matter.
-/

namespace Recast

inductive Kind where
  | fixHandlers
  | revertHandlers
  | finalFix
  | sqlxTypeFix
deriving DecidableEq, Repr

namespace Kind

def all : List Kind := [fixHandlers, revertHandlers, finalFix, sqlxTypeFix]

def name : Kind → String
  | fixHandlers => "fix-handlers"
  | revertHandlers => "revert-handlers"
  | finalFix => "final-fix"
  | sqlxTypeFix => "sqlx-type-fix"

def ofName? (name : String) : Option Kind :=
  all.find? fun kind => kind.name == name

def ofNameIgnoringCase? (name : String) : Option Kind :=
  all.find? fun kind => kind.name.toList.map Char.toLower == name.toList.map Char.toLower

theorem ofName?_name (kind : Kind) : ofName? kind.name = some kind := by
  cases kind <;> rfl

end Kind

structure Target where
  path : Text
  rules : RuleSet

structure Manifest where
  path : Text
  body : Text
deriving DecidableEq, Repr

structure Transformation where
  kind : Kind
  requiredDir : Text
  targets : List Target
  manifests : List Manifest

namespace Transformation

def distinctSets (seen : List String) : List RuleSet → List RuleSet
  | [] => []
  | set :: more =>
    if seen.contains set.name then distinctSets seen more
    else set :: distinctSets (seen ++ [set.name]) more

def ruleSets (transformation : Transformation) : List RuleSet :=
  distinctSets [] (transformation.targets.map (·.rules))

def target? (transformation : Transformation) (path : Text) : Option Target :=
  transformation.targets.find? fun target => Path.same target.path path

end Transformation

end Recast
