import Recast.Cli.Args
import Recast.Cli.Report

/-!
The program: a command line and a file tree in, output and a file tree out.
-/

namespace Recast

namespace FileFault

def message : FileFault → String
  | notFound => "No such file or directory (os error 2)"
  | notText => "stream did not contain valid UTF-8"
  | isDirectory => "Is a directory (os error 21)"
  | notDirectory => "Not a directory (os error 20)"
  | nameTooLong => "File name too long (os error 36)"
  | zeroInPath => "file name contained an unexpected NUL byte"
  | denied => "Permission denied (os error 13)"
  | readOnly => "Read-only file system (os error 30)"
  | noSpace => "No space left on device (os error 28)"
  | broken => "Input/output error (os error 5)"

end FileFault

namespace Fault

def causes : Fault → List String
  | read _ cause => [cause.message]
  | write _ cause => [cause.message]
  | _ => []

end Fault

namespace Cli

inductive NoTerminal where
  | noTerminal
deriving DecidableEq, Repr

def errorReport (message : String) (causes : List String) : Text :=
  line ("Error: ".toList ++ message.toList)
    ++ match causes with
      | [] => []
      | [cause] => "\nCaused by:\n".toList ++ line ("    ".toList ++ cause.toList)
      | causes =>
        "\nCaused by:\n".toList
          ++ causes.zipIdx.flatMap fun (cause, n) =>
            line ("    ".toList ++ Text.ofNat n ++ ": ".toList ++ cause.toList)

def stopReport : Stop NoTerminal → Text
  | .fault fault => errorReport fault.message fault.causes
  | .approval .noTerminal =>
    errorReport "Failed to read confirmation" ["IO error: not a terminal", "not a terminal"]

/-- Whether a pending change is shown. A program gets nothing but the summary. -/
def RunArgs.showsDiffs (args : RunArgs) : Bool := (args.diff || args.interactive) && !args.json

/-- Approves of everything, unless a person is to be asked. Its state is what standard output has so
far: a pending change is shown there before anything is said about it. -/
def approver (color : Bool) (args : RunArgs) : Approver Text NoTerminal :=
  fun printed tree path revision =>
    ⟨if args.interactive then .error .noTerminal else .ok true,
      if args.showsDiffs then printed ++ diffText color (revision.diff path) else printed,
      tree⟩

def conduct (color : Bool) (kind : Kind) (args : RunArgs) (disk : Disk) (tree : Tree) :
    Outcome Text NoTerminal :=
  kind.transformation.run args.root args.dryRun (approver color args) [] disk tree

def runOutput (color : Bool) (kind : Kind) (args : RunArgs) (disk : Disk) (tree : Tree) :
    Output × Tree :=
  let outcome := conduct color kind args disk tree
  let opening :=
    if args.verbose && !args.json then
      labelled color .boldBlue "info:"
        (Text.ofNat kind.transformation.targets.length ++ " targets under ".toList ++ args.root)
    else []
  let output : Output :=
    match outcome.result with
    | .error stop => ⟨1, outcome.state, opening ++ stopReport stop⟩
    | .ok summary =>
      if args.json then ⟨0, outcome.state ++ line ((summaryJson summary).pretty 0), opening⟩
      else
        ⟨0, outcome.state ++ summaryText color args.verbose summary,
          opening ++ summaryWarnings color summary⟩
  (output, outcome.tree)

def isOn (setting : Option String) : Bool := setting.any (· != "0")

/-- Whether to print colours: always when forced, never when forbidden, and otherwise on a terminal
unless they are switched off. -/
def wantsColor (force forbid setting : Option String) (terminal : Bool) : Bool :=
  if isOn force then true
  else if forbid.isSome then false
  else terminal && (setting.isNone || isOn setting)

def versionText : Text := "handler-migrate 0.1.0\n".toList

def usageText : Text :=
  "Usage: handler-migrate <COMMAND>\n\nCommands:\n".toList
    ++ (Kind.all.map (·.name) ++ ["rules", "help"]).flatMap fun name =>
      line ("  ".toList ++ name.toList)

def usageOutput : Usage → Output
  | .help => ⟨0, usageText, []⟩
  | .version => ⟨0, versionText, []⟩
  | _ => ⟨2, [], usageText⟩

/-- The paths that a command may read or write. -/
def pathsOf : Command → List Text
  | .run kind args =>
    let transformation := kind.transformation
    (transformation.requiredDir :: transformation.targets.map (·.path)
      ++ transformation.manifests.map (·.path)).map (Path.join args.root)
  | .rules _ => []

def execute (color : Bool) (args : List Text) (disk : Disk) (tree : Tree) : Output × Tree :=
  match read args with
  | .error usage => (usageOutput usage, tree)
  | .ok (.run kind args) => runOutput color kind args disk tree
  | .ok (.rules (some kind)) => (⟨0, listing color [kind], []⟩, tree)
  | .ok (.rules none) => (⟨0, listing color Kind.all, []⟩, tree)

end Cli

end Recast
