import Recast.Diff.Compact
import Recast.Diff.Hunk
import Recast.Diff.Search
import Recast.Text

/-!
Unified diffs of two texts.
-/

namespace Recast.Diff

/-- The hunks between two texts, line by line. A last line without a line break differs from the
same line with one. -/
def hunks (old new : Text) : List (Hunk Text) :=
  let oldLines := Text.lines old
  let newLines := Text.lines new
  let found := changes (compact (script oldLines newLines))
  hunksOf oldLines newLines found.length found

/-- One side of a hunk's header: the number of the first line, counted from one unless there is
none, and the number of lines unless that is one. -/
def rangeText (start size : Nat) : Text :=
  let first := if size = 0 then start else start + 1
  Text.ofNat first ++ (if size = 1 then [] else ',' :: Text.ofNat size)

def headerText {α : Type} (hunk : Hunk α) : Text :=
  "@@ -".toList ++ rangeText hunk.oldStart hunk.oldSize ++ " +".toList
    ++ rangeText hunk.newStart hunk.newSize ++ " @@\n".toList

/-- What follows a last line that has no line break. -/
def noLineBreak : Text := "\n\\ No newline at end of file\n".toList

def signed (sign : Char) (line : Text) : Text :=
  sign :: line ++ (if line.getLast? = some '\n' then [] else noLineBreak)

def lineText : HunkLine Text → Text
  | .context line => if line = ['\n'] then line else signed ' ' line
  | .delete line => signed '-' line
  | .insert line => signed '+' line

def hunkText (hunk : Hunk Text) : Text := headerText hunk ++ hunk.lines.flatMap lineText

def printed (old new : Text) : Text :=
  "--- original\n+++ modified\n".toList ++ (hunks old new).flatMap hunkText

def isHeader (line : Text) : Bool :=
  "---".toList.isPrefixOf line || "+++".toList.isPrefixOf line

/-- The unified diff of two texts under a label, which takes the place of the headers. A carriage
return at the end of a line is not shown. -/
def unified (label old new : Text) : Text :=
  "--- a/".toList ++ label ++ "\n+++ b/".toList ++ label ++ ['\n']
    ++ ((Text.lines (printed old new)).dropWhile isHeader).flatMap fun line =>
      Text.chomp line ++ ['\n']

end Recast.Diff
