import Recast.Text

/-!
What can go wrong, as causes. The wording of every cause is `Fault.message`.
-/

namespace Recast

/-- Why a file could not be read or written. The path or what lies there is to blame, or the disk:
the last four. -/
inductive FileFault where
  | notFound
  | notText
  | isDirectory
  | notDirectory
  | nameTooLong
  | zeroInPath
  | denied
  | readOnly
  | noSpace
  | broken
deriving DecidableEq, Repr

inductive Fault where
  | missingRoot (path : Text)
  | read (path : Text) (cause : FileFault)
  | write (path : Text) (cause : FileFault)
  | pattern
  | unguardedInsert (rule : String)
  | ruleOrder (rule after : String)
deriving DecidableEq, Repr

namespace Fault

def message : Fault → String
  | missingRoot path =>
    "directory " ++ String.ofList path ++ " not found; run from the project root directory"
  | read path _ => "failed to read " ++ String.ofList path
  | write path _ => "failed to write " ++ String.ofList path
  | pattern => "invalid pattern"
  | unguardedInsert rule => "rule `" ++ rule ++ "` inserts text but has no precondition"
  | ruleOrder rule after => "rule `" ++ rule ++ "` must run after `" ++ after ++ "`"

end Fault

end Recast
