import Recast.Catalog
import Recast.Cli.Json
import Recast.Cli.Style
import Recast.Run

/-!
What a run and a listing print. The summary of a run is printed either for a person, a line for
each target, or for a program, as a record.
-/

namespace Recast.Cli

structure Output where
  exit : Nat
  stdout : Text
  stderr : Text
deriving DecidableEq, Repr

def line (text : Text) : Text := text ++ ['\n']

def labelled (color : Bool) (style : Style) (label : String) (text : Text) : Text :=
  line (style.paint color label.toList ++ ' ' :: text)

def diffLine (color : Bool) (text : Text) : Text :=
  let style? : Option Style :=
    if Text.stripStart? "+++".toList text |>.isSome then some .bold
    else if Text.stripStart? "---".toList text |>.isSome then some .bold
    else if Text.stripStart? ['+'] text |>.isSome then some .green
    else if Text.stripStart? ['-'] text |>.isSome then some .red
    else if Text.stripStart? "@@".toList text |>.isSome then some .cyan
    else none
  line ((style?.map (·.paint color text)).getD text)

def diffText (color : Bool) (diff : Text) : Text :=
  (Text.lines diff).flatMap fun text => diffLine color (Text.chomp text)

def statusLine (color dryRun : Bool) (result : FileResult) : Text :=
  match result.status with
  | .changed =>
    labelled color .boldGreen (if dryRun then "Would update:" else "Updated:") result.path
  | .unchanged => labelled color .dimmed "Unchanged:" result.path
  | .declined => labelled color .boldYellow "Skipped:" result.path
  | .missing => []

def warningLine (color : Bool) (result : FileResult) : Text :=
  match result.status with
  | .missing =>
    labelled color .boldYellow "warn:" (result.path ++ " not found, skipping".toList)
  | _ => []

def firedLines (color : Bool) (result : FileResult) : Text :=
  result.rules.flatMap fun rule => "  ".toList ++ labelled color .dimmed "->" rule.toList

def closingLine (color : Bool) (summary : Summary) : Text :=
  let tally := summary.tally
  '\n' ::
    if tally.changed = 0 && summary.created.isEmpty then
      labelled color .boldBlue "info:" "No changes to apply".toList
    else
      labelled color .boldGreen "ok:"
        (Text.ofNat tally.changed ++ " changed, ".toList
          ++ Text.ofNat tally.unchanged ++ " unchanged, ".toList
          ++ Text.ofNat tally.missing ++ " missing, ".toList
          ++ Text.ofNat tally.declined ++ " declined".toList)

def summaryText (color verbose : Bool) (summary : Summary) : Text :=
  (summary.files.flatMap fun result =>
      statusLine color summary.dryRun result ++ if verbose then firedLines color result else [])
    ++ (summary.created.flatMap fun path =>
      labelled color .boldGreen (if summary.dryRun then "Would create:" else "Created:") path)
    ++ closingLine color summary
    ++ if summary.dryRun && 0 < summary.tally.changed then
        labelled color .boldCyan "hint:" "Rerun without --dry-run to apply changes".toList
      else []

def summaryWarnings (color : Bool) (summary : Summary) : Text :=
  summary.files.flatMap (warningLine color)

def summaryJson (summary : Summary) : Json :=
  .record
    [("transformation", .string summary.kind.name.toList),
      ("dry_run", .bool summary.dryRun),
      ("files", .list (summary.files.map fun result =>
        .record
          [("path", .string result.path),
            ("status", .string result.status.name.toList),
            ("rules", .list (result.rules.map fun rule => .string rule.toList))])),
      ("changed", .number summary.tally.changed),
      ("unchanged", .number summary.tally.unchanged),
      ("missing", .number summary.tally.missing),
      ("declined", .number summary.tally.declined),
      ("created", .list (summary.created.map .string))]

def ruleText (color : Bool) (rule : Rule) : Text :=
  line ("    ".toList ++ rule.name.toList ++ ' ' ::
      Style.dimmed.paint color ("(".toList ++ rule.kind.name.toList ++ ")".toList))
    ++ "      ".toList ++ labelled color .dimmed "match:" rule.matcher.describe
    ++ "      ".toList ++ labelled color .dimmed "when:" rule.guard.describe

def listedFile (color : Bool) (path note : Text) : Text :=
  line ("  ".toList ++ path ++ ' ' ::
    Style.dimmed.paint color ("[".toList ++ note ++ "]".toList))

def transformationText (color : Bool) (transformation : Transformation) : Text :=
  line (Style.bold.paint color transformation.kind.name.toList
      ++ " (requires ".toList ++ transformation.requiredDir ++ ")".toList)
    ++ (transformation.targets.flatMap fun target =>
      listedFile color target.path target.rules.name.toList)
    ++ (transformation.manifests.flatMap fun manifest =>
      listedFile color manifest.path "created if absent".toList)
    ++ transformation.ruleSets.flatMap fun set =>
      '\n' :: line ("  ".toList ++ Style.cyan.paint color set.name.toList)
        ++ set.rules.flatMap (ruleText color)

def listing (color : Bool) (kinds : List Kind) : Text :=
  ['\n'].intercalate (kinds.map fun kind => transformationText color kind.transformation)

end Recast.Cli
