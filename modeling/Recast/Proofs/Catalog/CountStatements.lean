import Recast.Proofs.Segments
import Recast.Proofs.Catalog.KeptParts

/-! A count is repaired inside its statement. A match of the pattern ends with the semicolon that it
has, so the repair goes from one statement to the next: a statement that ends with a count gets the
fallback, all parts of the count are kept, and every other statement stays as it is. -/

namespace Recast

namespace Pattern

theorem mem_ends_of_hit {pattern : Pattern} {pos : Nat} {prev : Option Char} {found after : Text}
    {hit : Match} (hhit : pattern.matchAt? ⟨pos, prev, found ++ after⟩ = some hit)
    (hspan : hit.span = ⟨pos, pos + found.length⟩) :
    ∃ spot ∈ pattern.ends (⟨pos, prev, found ++ after⟩, []),
      hit = matchOf ⟨pos, prev, found ++ after⟩ spot ∧ spot.1.rest = after := by
  obtain ⟨spot, hspot, rfl⟩ := mem_ends_of_matchAt? hhit
  obtain ⟨text, hrest, hpast, -⟩ := mem_ends hspot
  have hstop : spot.1.pos = pos + found.length := (Span.mk.inj hspan).2
  have hpos : spot.1.pos = pos + text.length := congrArg Cursor.pos hpast
  have hlength : found.length = text.length := by omega
  exact ⟨spot, hspot, rfl, (List.append_inj hrest hlength).2.symm⟩

end Pattern

namespace Catalog

open Pattern

namespace Count

variable (count : Count) (binding : Text)

def bound (blanks blanks' : Text) : Text :=
  Text.spell "let " ++ (binding ++ (Text.spell ": i64 = " ++ (count.query ++ (blanks ++
    (Text.spell ".fetch_one(" ++ (count.row ++ (Text.spell ")" ++ (blanks' ++ (Text.spell ".await" ++
      (count.onward ++ Text.spell "?"))))))))))

def defaulted : Text :=
  Text.spell "let " ++ (binding ++ (Text.spell " = " ++ (count.query ++
    (Text.spell "\n    .fetch_one(" ++ (count.row ++ (Text.spell ")\n    .await" ++ (count.onward ++
      Text.spell "?\n    .unwrap_or(0)")))))))

theorem old_eq (blanks blanks' : Text) :
    count.old binding blanks blanks' = count.bound binding blanks blanks' ++ [';'] := by
  simp [old, bound, Text.spell]

theorem front_eq : count.front binding ++ [')', ';'] = count.defaulted binding ++ [';'] := by
  simp [front, defaulted, Text.spell]

end Count

/-- What becomes of a statement. If it ends with a count, the count gets its fallback. -/
inductive Defaults (binding : Text) : Text → Text → Prop where
  | bound (before : Text) {count : Count} {blanks blanks' : Text} (h : count.Fits blanks blanks') :
    Defaults binding (before ++ count.bound binding blanks blanks')
      (before ++ count.defaulted binding)
  | other {statement : Text} (h : ∀ before count blanks blanks', Count.Fits count blanks blanks' →
      statement ≠ before ++ count.bound binding blanks blanks') :
    Defaults binding statement statement

theorem Count.Fits.within {count : Count} {binding blanks blanks' : Text}
    (h : count.Fits blanks blanks') (prev : Option Char) (before rest : Text) :
    (Form.countShape binding).Within prev ((before ++ count.bound binding blanks blanks') ++ [';'])
      rest := by
  refine ⟨before, count.old binding blanks blanks', [], ?_, reads_count.mpr ⟨_, _, _, h, rfl⟩⟩
  rw [count.old_eq, List.append_nil, List.append_assoc]

theorem countRule_swept (form : Form) {binding : String}
    {valid : (Regex.read? form.source).isSome = true} {rule : Rule}
    (hm : rule.matcher = .regex (.ofText form.source valid))
    (ha : rule.action = .replace (.template (countTemplate binding)) .all)
    (hg : rule.guard = .always) (hp : form.pattern = Form.countShape binding.toList)
    (hdollar : '$' ∉ binding.toList) (text : Text) :
    Swept (Form.countShape binding.toList) (fun found fresh => ∃ count blanks blanks',
      Count.Fits count blanks blanks' ∧ found = count.old binding.toList blanks blanks' ∧
        fresh = count.front binding.toList ++ [')', ';']) none text (rule.apply text) := by
  rw [← hp]
  have hguard : rule.guard.holds text = true := by
    rw [hg]
    rfl
  refine form.apply_swept hm ha hguard ?_
  intro front found after hit htext hhit hspan
  rw [hp] at hhit
  obtain ⟨spot, hspot, rfl, hafter⟩ := mem_ends_of_hit hhit hspan
  obtain ⟨count, blanks, blanks', hold, hfits, hquery, hrow, honward⟩ := count_ends hspot
  rw [hafter] at hold
  rw [← htext] at hquery hrow honward
  refine ⟨count, blanks, blanks', hfits, List.append_cancel_right hold, ?_⟩
  exact expand_count hdollar (hquery.group? (by decide)) (hrow.group? (by decide))
    (honward.group? (by decide))

/-- The rules of the set repair counts inside their statements, and there are as many statements as
before. -/
def DefaultsCounts (set : RuleSet) (binding : Text) : Prop :=
  ∀ text, ((set.apply text).content.splitOn ';').length = (text.splitOn ';').length ∧
    Text.Segmentwise ';' (Defaults binding) text (set.apply text).content

theorem count_defaults (form : Form) {set : RuleSet} {binding : String}
    {valid : (Regex.read? form.source).isSome = true} {rule : Rule} (hset : set.rules = [rule])
    (hm : rule.matcher = .regex (.ofText form.source valid))
    (ha : rule.action = .replace (.template (countTemplate binding)) .all)
    (hg : rule.guard = .always) (hp : form.pattern = Form.countShape binding.toList)
    (hdollar : '$' ∉ binding.toList) (hsemicolon : ';' ∉ binding.toList) :
    DefaultsCounts set binding.toList := by
  intro text
  have hout : (set.apply text).content = rule.apply text := by
    rw [RuleSet.apply_content, hset]
    rfl
  have hconsumes : (Form.countShape binding.toList).consumes = true := hp ▸ form.consumes
  have hsegments : Text.Segmentwise ';' (Defaults binding.toList) text (rule.apply text) := by
    refine (countRule_swept form hm ha hg hp hdollar text).segmentwise hconsumes ?_ ?_
    · intro prev statement rest hno
      refine .other ?_
      rintro before count blanks blanks' hfits rfl
      exact hno (hfits.within prev before rest)
    · rintro _ _ ⟨count, blanks, blanks', hfits, rfl, rfl⟩
      obtain ⟨front, hfront, hclean⟩ := hfits.old_eq hsemicolon
      have hold : ';' ∉ count.bound binding.toList blanks blanks' := by
        have hcut : count.bound binding.toList blanks blanks' ++ [';'] = (front ++ ['?']) ++ [';'] := by
          rw [← count.old_eq, hfront]
          simp
        rw [List.append_cancel_right hcut]
        simp [hclean]
      have hnew : ';' ∉ count.defaulted binding.toList := by
        have hcut : count.defaulted binding.toList ++ [';'] =
            (count.front binding.toList ++ [')']) ++ [';'] := by
          rw [← count.front_eq]
          simp
        rw [List.append_cancel_right hcut]
        simp [hfits.clean.notin_front hsemicolon]
      exact ⟨_, _, count.old_eq _ _ _, count.front_eq _, hold, hnew, fun lead => .bound lead hfits⟩
  rw [hout]
  exact ⟨hsegments.length_eq, hsegments⟩

/-- The rules for both counts stay within the statement they repair. Cut at the semicolons, the text has
as many pieces as before. What stands behind the last semicolon stays; a piece before it changes only if
it ends with the count, bound to its name as a number, and then the query, the row and what is done with
them are kept and the fallback is put behind them. -/
theorem counts_default_within_statements :
    DefaultsCounts teamCount (Text.spell "assigned_vulns") ∧
      DefaultsCounts assetCount (Text.spell "associated_vulns") := by
  rw [Text.spell_eq, Text.spell_eq]
  exact ⟨count_defaults Form.assignedCount rfl rfl rfl rfl rfl (by decide) (by decide),
    count_defaults Form.associatedCount rfl rfl rfl rfl rfl (by decide) (by decide)⟩

end Catalog

end Recast
