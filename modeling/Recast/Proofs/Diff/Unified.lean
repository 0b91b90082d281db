import Recast.Proofs.Diff.Hunks
import Recast.Proofs.Diff.Reading
import Recast.Revision

/-! What a diff shows of a revision. Its first two lines name the file, and the rest is a patch between
both texts that can be applied and taken back. The headers that the diff comes with go, and nothing
else does: every hunk begins with a line that does not look like them. -/

namespace Recast.Diff

variable {old new : Text}

def patch (label old new : Text) : Patch := ⟨"a/".toList ++ label, "b/".toList ++ label, hunks old new⟩

@[simp]
theorem patch_oldName (label old new : Text) : (patch label old new).oldName = "a/".toList ++ label :=
  rfl

@[simp]
theorem patch_newName (label old new : Text) : (patch label old new).newName = "b/".toList ++ label :=
  rfl

@[simp]
theorem patch_hunks (label old new : Text) : (patch label old new).hunks = hunks old new := by
  rw [patch]

theorem hunks_fromTexts (old new : Text) : ∀ hunk ∈ hunks old new, hunk.FromTexts := by
  intro hunk hhunk line hline
  rcases (hunks_fit old new).item_mem hhunk hline with hmem | hmem
  · exact (Text.isLine_of_mem_lines hmem).imp_right And.right
  · exact (Text.isLine_of_mem_lines hmem).imp_right And.right

theorem isLine_of_mem_hunks {shown : Text} (h : shown ∈ (hunks old new).flatMap Hunk.printed) :
    Text.IsLine shown := by
  obtain ⟨hunk, hhunk, hshown⟩ := List.mem_flatMap.mp h
  exact (hunks_fromTexts old new hunk hhunk).isLine shown hshown

theorem carriage_notin_hunks (hold : '\r' ∉ old) (hnew : '\r' ∉ new) {shown : Text}
    (h : shown ∈ (hunks old new).flatMap Hunk.printed) : '\r' ∉ shown := by
  obtain ⟨hunk, hhunk, hshown⟩ := List.mem_flatMap.mp h
  rcases List.mem_cons.mp hshown with rfl | hshown
  · obtain ⟨body, hplain, heq⟩ := headerText_body hunk
    rw [heq]
    exact List.not_mem_append hplain.carriage (by decide)
  · obtain ⟨line, hline, hshown⟩ := List.mem_flatMap.mp hshown
    refine line.carriage_notin_printed (fun hmem => ?_) shown hshown
    exact ((hunks_fit old new).item_mem hhunk hline).elim
      (fun hline => hold (Text.mem_of_mem_lines hline hmem))
      (fun hline => hnew (Text.mem_of_mem_lines hline hmem))

def ownHeaders : List Text := ["--- original\n".toList, "+++ modified\n".toList]

theorem lines_printed (old new : Text) :
    Text.lines (printed old new) = ownHeaders ++ (hunks old new).flatMap Hunk.printed := by
  have hheaders : ∀ shown ∈ ownHeaders, Text.IsLine shown := by
    refine List.forall_mem_cons.mpr ⟨⟨"--- original".toList, by decide, rfl⟩, ?_⟩
    exact List.forall_mem_singleton.mpr ⟨"+++ modified".toList, by decide, rfl⟩
  have hprinted : printed old new =
      (ownHeaders ++ (hunks old new).flatMap Hunk.printed).flatten := by
    rw [List.flatten_append, ← Hunk.flatMap_hunkText]
    rfl
  rw [hprinted, Text.lines_flatten]
  intro shown hshown
  exact (List.mem_append.mp hshown).elim (hheaders shown) isLine_of_mem_hunks

theorem isHeader_headerText (hunk : Hunk Text) : isHeader (headerText hunk) = false := by
  rw [headerText_eq]
  rfl

/-- Lines that look like headers end where the hunks begin, whatever the changed lines begin with. -/
theorem headers_printed (old new : Text) :
    (Text.lines (printed old new)).takeWhile isHeader = ownHeaders ∧
      (Text.lines (printed old new)).dropWhile isHeader = (hunks old new).flatMap Hunk.printed := by
  have hown : ∀ shown ∈ ownHeaders, isHeader shown = true := by decide
  have hfirst : ∀ shown ∈ ((hunks old new).flatMap Hunk.printed).head?, isHeader shown = false := by
    cases hunks old new with
    | nil => rintro _ ⟨⟩
    | cons hunk hunks =>
      rintro _ ⟨⟩
      exact isHeader_headerText hunk
  rw [lines_printed]
  exact ⟨Text.takeWhile_append hown hfirst, Text.dropWhile_append hown hfirst⟩

theorem flatMap_chomp_hunks (hold : '\r' ∉ old) (hnew : '\r' ∉ new) :
    ((hunks old new).flatMap Hunk.printed).flatMap (fun line => Text.chomp line ++ ['\n']) =
      (hunks old new).flatMap hunkText := by
  rw [Hunk.flatMap_hunkText, List.flatMap_def]
  have hshown : ∀ shown ∈ (hunks old new).flatMap Hunk.printed, Text.chomp shown ++ ['\n'] = shown :=
    fun shown hshown =>
      Text.chomp_append (isLine_of_mem_hunks hshown) (carriage_notin_hunks hold hnew hshown)
  rw [List.map_congr_left hshown, List.map_id']

/-- A diff consists of the two lines that name the label and of the hunks. -/
theorem unified_eq (label : Text) (hold : '\r' ∉ old) (hnew : '\r' ∉ new) :
    unified label old new = "--- a/".toList ++ label ++ "\n+++ b/".toList ++ label ++ ['\n'] ++
      (hunks old new).flatMap hunkText := by
  rw [← flatMap_chomp_hunks hold hnew, ← (headers_printed old new).2]
  rfl

theorem text_patch (label old new : Text) :
    (patch label old new).text = "--- a/".toList ++ label ++ "\n+++ b/".toList ++ label ++ ['\n'] ++
      (hunks old new).flatMap hunkText := by
  have hminus : "--- a/".toList = "--- ".toList ++ "a/".toList := rfl
  have hplus : "\n+++ b/".toList = ['\n'] ++ ("+++ ".toList ++ "b/".toList) := rfl
  rw [Patch.text_eq, patch_oldName, patch_newName, patch_hunks, hminus, hplus]
  simp only [List.append_assoc]

theorem patch_apply (label old new : Text) : (patch label old new).apply old = some new := by
  rw [Patch.apply, patch_hunks, (hunks_fit old new).apply, Option.map_some, Text.flatten_lines]

theorem patch_flip_apply (label old new : Text) : (patch label old new).flip.apply new = some old := by
  rw [Patch.apply, Patch.flip_hunks, patch_hunks, (hunks_fit old new).flip.apply, Option.map_some,
    Text.flatten_lines]

theorem read?_unified {label : Text} (hlabel : '\n' ∉ label) (hold : '\r' ∉ old) (hnew : '\r' ∉ new) :
    Patch.read? (unified label old new) = some (patch label old new) := by
  rw [unified_eq label hold hnew, ← text_patch]
  refine Patch.read?_text ?_ ?_ ?_ ?_
  · rw [patch_oldName]
    exact List.not_mem_append (by decide) hlabel
  · rw [patch_newName]
    exact List.not_mem_append (by decide) hlabel
  · rw [patch_hunks]
    exact (hunks_fit old new).sized
  · rw [patch_hunks]
    exact hunks_fromTexts old new

/-- A diff of two texts under a label that shows a patch and nothing else. The patch leads from the one
text to the other, and back. -/
structure Shows (diff label old new : Text) (patch : Patch) : Prop where
  text : diff = "--- a/".toList ++ label ++ "\n+++ b/".toList ++ label ++ ['\n'] ++
    patch.hunks.flatMap hunkText
  read : Patch.read? diff = some patch
  oldName : patch.oldName = "a/".toList ++ label
  newName : patch.newName = "b/".toList ++ label
  leads : patch.apply old = some new
  leads_back : patch.flip.apply new = some old
  hunks_eq_nil_iff : patch.hunks = [] ↔ old = new

theorem unified_shows {label : Text} (hlabel : '\n' ∉ label) (hold : '\r' ∉ old) (hnew : '\r' ∉ new) :
    Shows (unified label old new) label old new (patch label old new) where
  text := by rw [unified_eq label hold hnew, patch_hunks]
  read := read?_unified hlabel hold hnew
  oldName := patch_oldName label old new
  newName := patch_newName label old new
  leads := patch_apply label old new
  leads_back := patch_flip_apply label old new
  hunks_eq_nil_iff := by
    rw [patch_hunks]
    exact Diff.hunks_eq_nil_iff old new

end Recast.Diff

namespace Recast.Revision

open Diff

/-- The diff of a revision shows what it does to the file. Of the lines that the diff of both texts
begins with, its own two headers go and no other line does, whatever the changed lines begin with. -/
theorem diff_shows_revision (revision : Revision) {label : Text} (hlabel : '\n' ∉ label)
    (hbefore : '\r' ∉ revision.before) (hafter : '\r' ∉ revision.after) :
    ∃ patch, Shows (revision.diff label) label revision.before revision.after patch ∧
      (Text.lines (printed revision.before revision.after)).takeWhile isHeader =
        ["--- original\n".toList, "+++ modified\n".toList] ∧
      ((Text.lines (printed revision.before revision.after)).dropWhile isHeader).flatten =
        patch.hunks.flatMap hunkText := by
  obtain ⟨hskipped, hleft⟩ := headers_printed revision.before revision.after
  refine ⟨_, unified_shows hlabel hbefore hafter, hskipped, ?_⟩
  rw [hleft, patch_hunks, Hunk.flatMap_hunkText]

/-- A changed line may look like a header, and the last one may lack its line break. -/
theorem diff_shows_revision_dashes :
    let revision : Revision := ⟨"-- totals\nSELECT 1;\n".toList, "++ totals\nSELECT 1;".toList, []⟩
    ('\n' ∉ "sums.sql".toList ∧ '\r' ∉ revision.before ∧ '\r' ∉ revision.after) ∧
      ∃ patch, Shows (revision.diff "sums.sql".toList) "sums.sql".toList revision.before
          revision.after patch ∧
        (Text.lines (printed revision.before revision.after)).takeWhile isHeader =
          ["--- original\n".toList, "+++ modified\n".toList] ∧
        ((Text.lines (printed revision.before revision.after)).dropWhile isHeader).flatten =
          patch.hunks.flatMap hunkText :=
  ⟨⟨by decide, by decide, by decide⟩, diff_shows_revision _ (by decide) (by decide) (by decide)⟩

example : (⟨"-- totals\n".toList, "++ totals".toList, []⟩ : Revision).diff "sums.sql".toList =
    "--- a/sums.sql\n+++ b/sums.sql\n@@ -1 +1 @@\n".toList ++
      "--- totals\n+++ totals\n\\ No newline at end of file\n".toList := by
  decide +kernel

end Recast.Revision
