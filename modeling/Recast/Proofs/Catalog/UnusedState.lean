import Recast.Catalog.Leftovers
import Recast.Proofs.LineBlocks
import Recast.Proofs.Pattern.Beside
import Recast.Proofs.RuleSet

/-! What is left of unused imports of `State`. Entries next to each other share the comma between them. Of
two entries in a row that are to go, the first takes this comma along, and the second is not seen as an
entry any more: it stays. There is no other way for an entry to stay. -/

namespace Recast

namespace Catalog

open Pattern

def stateEntry : Text := Text.spell ", State,"

def stateLast : Text := Text.spell ", State\x7d"

/-- Two entries that share the comma between them. -/
def stateTwice : Text := Text.spell ", State, State,"

theorem unusedStateImport_eq :
    unusedStateImport =
      [(Rule.replace "drop-state-import" (.literal stateEntry) [',']).guardedBy stateUnused,
        (Rule.replace "drop-state-import-last" (.literal stateLast) ['\x7d']).guardedBy
          stateUnused] := by
  rw [stateEntry, stateLast, Text.spell_eq, Text.spell_eq]
  rfl

section

variable {prev : Option Char} {text before found after out : Text}

/-- Dropping entries with the comma before them does not change how a text begins. -/
theorem begins_of_swept (h : Swept (exactly stateEntry)
    (fun found fresh => found = stateEntry ∧ fresh = [',']) prev text out) :
    Text.spell " State," <+: out ↔ Text.spell " State," <+: text := by
  cases h with
  | rest => exact Iff.rfl
  | step hfirst fits more =>
    obtain ⟨hfound, rfl⟩ := fits
    rw [hfirst.split, hfound]
    have hmark : ',' ∉ Text.spell " State" := by decide
    exact (Text.prefix_cut_iff hmark).trans (Text.prefix_cut_iff hmark).symm

theorem stateEntry_cut (first second : Text) :
    stateEntry.within (first ++ ',' :: second) = true ↔ stateEntry.within first = true ∨
      stateEntry.within second = true ∨ Text.spell " State," <+: second ∨
        Text.spell ", State" <:+ first := by
  have hcuts : stateEntry.cutsAt ',' =
      [([], Text.spell " State,"), (Text.spell ", State", [])] := by decide
  rw [Text.within_cut_iff, hcuts]
  simp

theorem stateLast_cut (first second : Text) :
    stateLast.within (first ++ '\x7d' :: second) = true ↔ stateLast.within first = true ∨
      stateLast.within second = true ∨ Text.spell ", State" <:+ first := by
  have hcuts : stateLast.cutsAt '\x7d' = [(Text.spell ", State", [])] := by decide
  rw [Text.within_cut_iff, hcuts]
  simp

/-- Where an entry stands first, the next one shares its comma or both stand behind it. -/
theorem stateTwice_behind (after : Text) :
    stateTwice.within (stateEntry ++ after) = true ↔ Text.spell " State," <+: after ∨
      stateTwice.within after = true := by
  have hentry : stateEntry ++ after = Text.spell ", State" ++ ',' :: after := rfl
  have hcuts : stateTwice.cutsAt ',' = [([], Text.spell " State, State,"),
      (Text.spell ", State", Text.spell " State,"), (Text.spell ", State, State", [])] := by decide
  have hshort : stateTwice.within (Text.spell ", State") = false := by decide
  have hlong : ¬ Text.spell ", State, State" <:+ Text.spell ", State" := by decide
  have hboth : Text.spell " State," <+: Text.spell " State, State," := by decide
  rw [hentry, Text.within_cut_iff, hcuts, hshort]
  simp only [List.mem_cons, List.not_mem_nil, or_false, exists_eq_or_imp, exists_eq_left,
    List.nil_suffix, true_and, hlong, false_and, List.suffix_rfl, Bool.false_eq_true, false_or]
  constructor
  · intro hcase
    rcases hcase with hin | hbegins | hbegins
    · exact .inr hin
    · exact .inl (hboth.trans hbegins)
    · exact .inl hbegins
  · intro hcase
    rcases hcase with hbegins | hin
    · exact .inr (.inr hbegins)
    · exact .inl hin

/-- An entry is left exactly where two of them stood in a row. -/
theorem stateEntry_left_iff (h : Swept (exactly stateEntry)
    (fun found fresh => found = stateEntry ∧ fresh = [',']) prev text out) :
    stateEntry.within out = true ↔ stateTwice.within text = true := by
  have htwice : stateEntry <+: stateTwice := by decide
  induction h with
  | rest hno =>
    rw [occurs_exactly] at hno
    constructor
    · intro hin
      rw [hno] at hin
      cases hin
    · intro hin
      have hentry := htwice.isInfix.trans ((Text.within_iff_isInfix _ _).mp hin)
      rw [Bool.eq_false_iff] at hno
      exact absurd ((Text.within_iff_isInfix _ _).mpr hentry) hno
  | step hfirst fits more ih =>
    obtain ⟨rfl, rfl⟩ := fits
    have hbefore := hfirst.not_within_before (by decide)
    have hends : ¬ Text.spell ", State" <:+ _ := fun ⟨front, hfront⟩ =>
      hfirst.not_prefix hfront.symm (by decide) ⟨Text.spell " State," ++ _, rfl⟩
    rw [hfirst.within_eq htwice, stateTwice_behind, List.singleton_append, stateEntry_cut, hbefore,
      begins_of_swept more]
    simp only [hends, ih, Bool.false_eq_true, false_or, or_false]
    exact or_comm

/-- Dropping the entries that are the last of their group leaves an entry in the text, in the middle of a
group or at its end, exactly where one stood in the middle. -/
theorem stateLast_left_iff (h : Swept (exactly stateLast)
    (fun found fresh => found = stateLast ∧ fresh = ['\x7d']) prev text out) :
    stateEntry.within out = true ∨ stateLast.within out = true ↔ stateEntry.within text = true := by
  induction h with
  | rest hno =>
    rw [occurs_exactly] at hno
    rw [hno]
    simp
  | @step prev text before found after fresh out hfirst fits more ih =>
    obtain ⟨rfl, rfl⟩ := fits
    have hbefore := hfirst.not_within_before (by decide)
    have hbrace : '\x7d' ∉ stateEntry := by decide
    have hcut : before ++ (stateLast ++ after) =
        (before ++ Text.spell ", State") ++ '\x7d' :: after := by
      simp [stateLast, Text.spell]
    have hentry : stateEntry.within (before ++ Text.spell ", State") = true ↔
        stateEntry.within before = true ∨ Text.spell ", State" <:+ before := by
      have hshort : stateEntry.within (Text.spell " State") = false := by decide
      have hlong : ¬ Text.spell " State," <+: Text.spell " State" := by decide
      have hcomma : before ++ Text.spell ", State" = before ++ ',' :: Text.spell " State" := rfl
      rw [hcomma, stateEntry_cut, hshort]
      simp only [hlong, Bool.false_eq_true, false_or]
    rw [hfirst.split, hcut, Text.within_cut_eq hbrace, List.singleton_append,
      Text.within_cut_eq hbrace, Bool.or_eq_true, Bool.or_eq_true, stateLast_cut, hbefore, hentry, ← ih]
    simp only [Bool.false_eq_true, false_or]
    constructor
    · intro hcase
      rcases hcase with (hleft | hright) | hright | hends
      · exact .inl (.inl hleft)
      · exact .inr (.inl hright)
      · exact .inr (.inr hright)
      · exact .inl (.inr hends)
    · intro hcase
      rcases hcase with (hleft | hends) | hright | hright
      · exact .inl (.inl hleft)
      · exact .inr (.inr hends)
      · exact .inl (.inr hright)
      · exact .inr (.inl hright)

end

theorem stateUnused_holds (text : Text) :
    stateUnused.holds text =
      (Text.within (Text.spell "Extension(") text && !Text.within (Text.spell "State(") text) := by
  simp only [stateUnused, Guard.holds, Guard.allHold, Bool.and_true, Text.spell_eq]

theorem stateUnused_patched {old new text out : Text}
    (h : Patched (fun old' new' => old' = old ∧ new' = new) text out)
    (hextension : apart (Text.spell "Extension(") old = true ∧
      apart (Text.spell "Extension(") new = true)
    (hstate : apart (Text.spell "State(") old = true ∧ apart (Text.spell "State(") new = true) :
    stateUnused.holds out = stateUnused.holds text := by
  rw [stateUnused_holds, stateUnused_holds, h.within_eq_of_apart hextension.1 hextension.2,
    h.within_eq_of_apart hstate.1 hstate.2]

/-- Where `State` is unused the rules leave an entry of that name exactly where two stood in a row. -/
theorem unusedStateImport_left_iff {text : Text} (h : stateUnused.holds text = true) :
    stateEntry.within (RuleSet.throughAll unusedStateImport text) = true ∨
      stateLast.within (RuleSet.throughAll unusedStateImport text) = true ↔
        stateTwice.within text = true := by
  rw [unusedStateImport_eq]
  generalize hfirst : (Rule.replace "drop-state-import" (.literal stateEntry) [',']).guardedBy
    stateUnused = first
  generalize hlast : (Rule.replace "drop-state-import-last" (.literal stateLast)
    ['\x7d']).guardedBy stateUnused = last
  have hswept : Swept (exactly stateEntry) (fun found fresh => found = stateEntry ∧ fresh = [','])
      none text (first.apply text) := by
    subst hfirst
    exact Rule.swept_literal (by decide) (by decide) rfl rfl h
  have hpatched : Patched (fun old new => old = stateEntry ∧ new = [',']) text (first.apply text) :=
    hswept.patched fun hfits => .single hfits
  have hguard : stateUnused.holds (first.apply text) = true := by
    rw [stateUnused_patched hpatched (by decide) (by decide), h]
  have hswept' : Swept (exactly stateLast) (fun found fresh => found = stateLast ∧ fresh = ['\x7d'])
      none (first.apply text) (last.apply (first.apply text)) := by
    subst hlast
    exact Rule.swept_literal (by decide) (by decide) rfl rfl hguard
  exact (stateLast_left_iff hswept').trans (stateEntry_left_iff hswept)

theorem patched_missingImportComma {patches : Text → Text → Prop}
    (h : Patched patches (Text.spell "    Json\n    Extension,")
      (Text.spell "    Json,\n    Extension,")) (text : Text) :
    Patched patches text (missingImportComma.apply text) := by
  have hblock : Matcher.blockText ["    Json".toList, "    Extension,".toList] =
      Text.spell "    Json\n    Extension," := by
    rw [Text.spell_eq]
    decide
  have hne : Matcher.blockText ["    Json".toList, "    Extension,".toList] ≠ [] := by
    rw [hblock]
    decide
  have hsound := ((Matcher.greedy_lines_iff hne text _).mpr rfl).sound
  have hreplaced := Replaced.of_spliceFrom (fun _ => "    Json,\n    Extension,".toList)
    (List.nil_append text).symm (missingImportComma.matcher.spans_ordered text)
  have hout : missingImportComma.apply text = spliceFrom 0 text
      ((missingImportComma.matcher.spans text).map fun span =>
        (span, "    Json,\n    Extension,".toList)) := by
    have hregex : missingImportComma.matcher.isRegex = true →
        (Replacement.template "    Json,\n    Extension,".toList).isPlain = true := nofun
    rw [Rule.apply_of_replace rfl rfl, Matcher.getD_replace?_of_spans hregex]
    rfl
  rw [hout]
  refine hreplaced.patched (List.nil_append text).symm rfl fun span hspan => ?_
  obtain ⟨front, after, rfl, rfl, -, -⟩ := hsound span hspan
  rw [Span.slice_found, hblock, ← Text.spell_eq]
  exact h

theorem missingImportComma_keeps_guard (text : Text) :
    stateUnused.holds (missingImportComma.apply text) = stateUnused.holds text := by
  have hpatched : Patched (fun old new => old = Text.spell "    Json\n    Extension," ∧
      new = Text.spell "    Json,\n    Extension,") text (missingImportComma.apply text) :=
    patched_missingImportComma (.single ⟨rfl, rfl⟩) text
  exact stateUnused_patched hpatched (by decide) (by decide)

theorem missingImportComma_keeps_entries (text : Text) :
    stateTwice.within (missingImportComma.apply text) = stateTwice.within text := by
  have hpiece : Patched (fun old new => old = Text.spell "    Json\n    Extension" ∧
      new = Text.spell "    Json,\n    Extension") (Text.spell "    Json\n    Extension")
        (Text.spell "    Json,\n    Extension") := .single ⟨rfl, rfl⟩
  have hpatched := patched_missingImportComma (hpiece.before [',']) text
  exact hpatched.within_eq_of_apart (by decide) (by decide)

/-- In a text that extracts through `Extension` and not through `State`, both rule sets leave an entry
`State` among imports exactly where two of them stood in a row. -/
theorem unused_state_left_iff {text : Text} (h : stateUnused.holds text = true) {set : RuleSet}
    (hset : set = dropUnusedStateImport ∨ set = finalFixReport) :
    stateEntry.within (set.apply text).content = true ∨
      stateLast.within (set.apply text).content = true ↔ stateTwice.within text = true := by
  rcases hset with rfl | rfl
  · rw [RuleSet.apply_content]
    exact unusedStateImport_left_iff h
  · have hthrough : RuleSet.throughAll finalFixReport.rules text =
        RuleSet.throughAll unusedStateImport (missingImportComma.apply text) := rfl
    rw [RuleSet.apply_content, hthrough, ← missingImportComma_keeps_entries]
    refine unusedStateImport_left_iff ?_
    rw [missingImportComma_keeps_guard, h]

def doubledImport : Text :=
  Text.spell "use axum::extract::\x7bPath, State, State, Query\x7d;\nfn f(Extension(x): Extension<X>) \x7b\x7d\n"

/-- The first import goes, and takes along the comma that the second one begins with. -/
theorem doubledImport_left :
    stateUnused.holds doubledImport = true ∧
      stateEntry.within (dropUnusedStateImport.apply doubledImport).content = true := by
  decide +kernel

end Catalog

end Recast
