import Recast.Proofs.Catalog.AuthAccess
import Recast.Proofs.Pattern.Chunk

/-! The handler rules do not settle. A rule that takes text out can bring the text around it together
to a new match, and its sweep does not come back to it. Where matches are nested in this way, each
application takes out the innermost one, so no number of applications is enough for all texts. -/

namespace Recast

def RuleSet.rerun (set : RuleSet) : Nat → Text → Text
  | 0, text => text
  | n + 1, text => set.rerun n (set.apply text).content

namespace RuleSet

theorem apply_of_only {set : RuleSet} (before after : List Rule) {rule : Rule} {text out : Text}
    (hr : set.rules = before ++ rule :: after) (hbefore : ∀ other ∈ before, other.apply text = text)
    (hrule : rule.apply text = out) (hne : out ≠ text)
    (hafter : ∀ other ∈ after, other.apply out = out) : set.apply text = ⟨out, [rule.name]⟩ := by
  have hquiet : before.foldl Applied.step ⟨text, []⟩ = ⟨text, []⟩ := foldl_step_quiet hbefore
  have hstep : (Applied.mk text []).step rule = ⟨out, [rule.name]⟩ := by
    rw [Applied.step_eq, hrule, if_neg hne]
    rfl
  rw [RuleSet.apply, hr, List.foldl_append, hquiet, List.foldl_cons, hstep]
  exact foldl_step_quiet hafter

theorem rerun_chain {set : RuleSet} {texts : Nat → Text}
    (h : ∀ n, (set.apply (texts (n + 1))).content = texts n) (runs n : Nat) :
    set.rerun runs (texts (n + runs)) = texts n := by
  induction runs with
  | zero => rfl
  | succ runs ih =>
    rw [← Nat.add_assoc, rerun, h]
    exact ih

theorem not_settles_of_fired {set : RuleSet}
    (h : ∀ runs, ∃ text, (set.apply (set.rerun runs text)).fired ≠ []) : ¬ set.Settles := by
  intro hsettles
  obtain ⟨text, hfired⟩ := h 1
  exact hfired (congrArg Applied.fired (hsettles text))

end RuleSet

def Text.copies (block : Text) : Nat → Text
  | 0 => []
  | n + 1 => block ++ block.copies n

namespace Text

variable {block : Text}

theorem copies_comm (block : Text) (n : Nat) : block.copies n ++ block = block ++ block.copies n := by
  induction n with
  | zero => simp [copies]
  | succ n ih => rw [copies, List.append_assoc, ih]

theorem lastFrom_copies (hne : block ≠ []) (n : Nat) :
    lastFrom none (block.copies n) ∈ [none, lastFrom none block] := by
  cases n with
  | zero => exact List.mem_cons_self
  | succ n =>
    obtain ⟨c, rest, rfl⟩ := List.exists_cons_of_ne_nil hne
    rw [copies, ← copies_comm, lastFrom_append]
    exact List.mem_cons_of_mem _ List.mem_cons_self

theorem exists_of_copies {n : Nat} : ∀ {left right : Text}, block.copies n = left ++ right →
    right ≠ [] → ∃ k front last m, block = front ++ last ∧ last ≠ [] ∧
      left = block.copies k ++ front ∧ right = last ++ block.copies m := by
  induction n with
  | zero =>
    intro left right heq hne
    exact absurd (List.append_eq_nil_iff.mp heq.symm).2 hne
  | succ n ih =>
    intro left right heq hne
    rcases List.append_eq_append_iff.mp heq with ⟨gap, rfl, hgap⟩ | ⟨gap, hblock, rfl⟩
    · obtain ⟨k, front, last, m, hblock, hlast, rfl, hright⟩ := ih hgap hne
      exact ⟨k + 1, front, last, m, hblock, hlast, by rw [copies, List.append_assoc], hright⟩
    · by_cases hgap : gap = []
      · subst hgap
        obtain ⟨k, front, last, m, hblock', hlast, hleft, hright⟩ := @ih [] _ rfl hne
        refine ⟨k + 1, front, last, m, hblock', hlast, ?_, hright⟩
        rw [copies, List.append_assoc, ← hleft, hblock, List.append_nil, List.append_nil]
      · exact ⟨0, left, gap, n, hblock, hgap, rfl, rfl⟩

end Text

namespace Pattern

variable {pattern : Pattern} {fixed text : Text}

theorem Begins.not_occurs (hb : pattern.Begins fixed) (hne : fixed ≠ [])
    (hclears : fixed.clears text = true) (prev : Option Char) : pattern.occurs prev text = false := by
  refine Bool.eq_false_iff.mpr fun hyes => ?_
  obtain ⟨before, found, after, rfl, hreads⟩ := (occurs_iff pattern text prev).mp hyes
  have hbegin := hb hreads
  have hfound : found ≠ [] := fun hnil => hne (List.prefix_nil.mp (hnil ▸ hbegin))
  have hfixed : ¬ fixed <+: (found ++ after) ++ [] :=
    Text.not_prefix_of_clears hclears (by simp [hfound])
  exact hfixed (by simpa using hbegin.trans (List.prefix_append found after))

/-- The first match behind copies of a text that begins it: no copy followed by another one begins a
match. -/
theorem First.of_copies {block core after : Text} (hb : pattern.Begins fixed) (n : Nat)
    (hblock : block ≠ []) (hclears : fixed.clears block.tail = true)
    (htwice : ∀ prev ∈ [none, Text.lastFrom none block],
      pattern.widthIn? prev (block ++ block) = some none)
    (hcore : ∀ prev ∈ [none, Text.lastFrom none block],
      pattern.widthIn? prev (block ++ core) = some (some (block ++ core).length)) :
    pattern.First none (block.copies n ++ ((block ++ core) ++ after)) (block.copies n)
      (block ++ core) after where
  split := rfl
  width := width?_of_widthIn? (hcore _ (Text.lastFrom_copies hblock n)) after
  earlier := by
    intro left right heq hne
    obtain ⟨k, front, last, m, hcut, hlast, rfl, rfl⟩ := Text.exists_of_copies heq hne
    cases front with
    | nil =>
      obtain rfl : block = last := hcut
      have hnext : (block ++ block.copies m) ++ ((block ++ core) ++ after) =
          (block ++ block) ++ (block.copies m ++ (core ++ after)) := by
        rw [List.append_assoc, ← List.append_assoc (block.copies m), ← List.append_assoc (block.copies m),
          Text.copies_comm]
        simp only [List.append_assoc]
      rw [hnext, List.append_nil]
      exact width?_of_widthIn? (htwice _ (Text.lastFrom_copies hblock k)) _
    | cons c front =>
      rw [hcut, List.cons_append, List.tail_cons] at hclears
      rw [List.append_assoc]
      exact hb.width?_eq_none (Text.not_prefix_of_clears hclears hlast)

theorem Begins.rewrite_copies {new : Text → Text} {block core after : Text}
    (hb : pattern.Begins fixed) (hne : fixed ≠ []) (n : Nat) (hblock : block ≠ [])
    (hclears : fixed.clears block.tail = true)
    (htwice : ∀ prev ∈ [none, Text.lastFrom none block],
      pattern.widthIn? prev (block ++ block) = some none)
    (hcore : ∀ prev ∈ [none, Text.lastFrom none block],
      pattern.widthIn? prev (block ++ core) = some (some (block ++ core).length))
    (hafter : fixed.clears after = true) :
    pattern.rewrite new (block.copies n ++ ((block ++ core) ++ after)) =
      block.copies n ++ (new (block ++ core) ++ after) := by
  have hfirst : pattern.First none _ (block.copies n) (block ++ core) after :=
    First.of_copies hb n hblock hclears htwice hcore
  rw [rewrite, hfirst.rewriteFrom (by simp [hblock]),
    rewriteFrom_of_not_occurs (hb.not_occurs hne hafter _)]

end Pattern

theorem Text.clears_copies {fixed block : Text} (h : fixed.clears block = true) (n : Nat) :
    fixed.clears (block.copies n) = true := by
  induction n with
  | zero => rfl
  | succ n ih => exact clears_append h ih

theorem Text.not_within_of_clears {needle text : Text} (hne : needle ≠ [])
    (hclears : needle.clears text = true) : needle.within text = false := by
  rw [← Pattern.occurs_exactly needle text none]
  exact Pattern.begins_lit.not_occurs hne hclears none

namespace Catalog

theorem Form.apply_of_clears (form : Form) {rule : Rule} {fixed text : Text}
    {valid : (Regex.read? form.source).isSome = true}
    (hm : rule.matcher = .regex (.ofText form.source valid)) (hb : form.pattern.Begins fixed)
    (hne : fixed ≠ []) (hclears : fixed.clears text = true) : rule.apply text = text :=
  form.apply_of_not_occurs hm (hb.not_occurs hne hclears none)

theorem not_occurs_authAccess {text : Text} (h : bareAccess.within text = false) :
    Form.authAccess.pattern.occurs none text = false := by
  refine Bool.eq_false_iff.mpr fun hyes => Bool.eq_false_iff.mp h ?_
  obtain ⟨before, found, after, rfl, hreads⟩ := (Pattern.occurs_iff _ text none).mp hyes
  refine Text.within_append_right (Text.within_append_left ?_ after) before
  obtain ⟨-, rfl | ⟨name, -, rfl⟩⟩ := reads_authAccess.mp hreads
  · decide
  · exact Text.within_append_right (by decide) name

def poolLine : Text := Text.spell "use sqlx::PgPool;\n"

def arcLine : Text := Text.spell "use std::sync::Arc;\n"

def nestedImports (depth : Nat) : Text := poolLine.copies depth ++ arcLine.copies depth

theorem clears_nestedImports {fixed : Text} (hpool : fixed.clears poolLine = true)
    (harc : fixed.clears arcLine = true) (depth : Nat) :
    fixed.clears (nestedImports depth) = true :=
  Text.clears_append (Text.clears_copies hpool depth) (Text.clears_copies harc depth)

theorem dropRawPoolImports_nestedImports (depth : Nat) :
    dropRawPoolImports.apply (nestedImports (depth + 1)) = nestedImports depth := by
  have hnested : nestedImports (depth + 1) =
      poolLine.copies depth ++ ((poolLine ++ arcLine) ++ arcLine.copies depth) := by
    rw [nestedImports, Text.copies, ← Text.copies_comm, Text.copies]
    simp only [List.append_assoc]
  rw [Form.rawPoolImports.apply_rewrite rfl rfl rfl rfl, hnested]
  exact Pattern.begins_lit.rewrite_copies (by decide) depth (by decide) (by decide)
    (by decide +kernel) (by decide +kernel) (Text.clears_copies (by decide) depth)

theorem not_within_nestedImports {needle : Text} (hne : needle ≠ [])
    (hpool : needle.clears poolLine = true) (harc : needle.clears arcLine = true) (depth : Nat) :
    needle.within (nestedImports depth) = false :=
  Text.not_within_of_clears hne (clears_nestedImports hpool harc depth)

theorem later_nestedImports (depth : Nat) :
    ∀ rule ∈ fixHandlers.rules.drop 1, rule.apply (nestedImports depth) = nestedImports depth := by
  intro rule hr
  rw [← List.take_append_drop 7 (fixHandlers.rules.drop 1), List.drop_drop, List.mem_append] at hr
  rcases hr with hr | hr
  · simp only [fixHandlers, RuleSet.ofRules, List.drop_succ_cons, List.drop_zero,
      List.take_succ_cons, List.take_zero, List.mem_cons, List.not_mem_nil, or_false] at hr
    rcases hr with rfl | rfl | rfl | rfl | rfl | rfl | rfl
    · exact Form.frameworkLine.apply_of_clears rfl Pattern.begins_lit (by decide)
        (clears_nestedImports (by decide) (by decide) depth)
    · exact Form.poolState.apply_of_clears rfl Pattern.begins_lit (by decide)
        (clears_nestedImports (by decide) (by decide) depth)
    · exact Form.authState.apply_of_clears rfl Pattern.begins_lit (by decide)
        (clears_nestedImports (by decide) (by decide) depth)
    · exact Form.poolDeref.apply_of_clears rfl Pattern.begins_lit (by decide)
        (clears_nestedImports (by decide) (by decide) depth)
    · exact Form.authAccess.apply_of_not_occurs rfl (not_occurs_authAccess
        (not_within_nestedImports (by decide) (by decide) (by decide) depth))
    · exact Form.poolStateAny.apply_of_clears rfl Pattern.begins_lit (by decide)
        (clears_nestedImports (by decide) (by decide) depth)
    · exact Form.authImportLine.apply_of_clears rfl Pattern.begins_lit (by decide)
        (clears_nestedImports (by decide) (by decide) depth)
  · exact imports_unneeded
      (not_within_nestedImports (by decide) (by decide) (by decide) depth)
      (not_within_nestedImports (by decide) (by decide) (by decide) depth)
      (not_within_nestedImports (by decide) (by decide) (by decide) depth) rule hr

theorem fixHandlers_nestedImports (depth : Nat) :
    fixHandlers.apply (nestedImports (depth + 1)) =
      ⟨nestedImports depth, ["drop-raw-pool-imports"]⟩ := by
  refine RuleSet.apply_of_only [] (fixHandlers.rules.drop 1) rfl (by simp)
    (dropRawPoolImports_nestedImports depth) ?_ (later_nestedImports depth)
  intro hsame
  have hlength := congrArg List.length hsame
  rw [nestedImports, nestedImports, Text.copies, Text.copies] at hlength
  simp only [List.length_append] at hlength
  have hline : poolLine.length = 18 := rfl
  omega

/-- However often the rules for the shared state have been applied, there are texts on which they fire
once more. -/
theorem fixHandlers_fires_again (runs : Nat) :
    ∃ text, (fixHandlers.apply (fixHandlers.rerun runs text)).fired ≠ [] := by
  refine ⟨nestedImports (1 + runs), ?_⟩
  have hstep (depth : Nat) :
      (fixHandlers.apply (nestedImports (depth + 1))).content = nestedImports depth := by
    rw [fixHandlers_nestedImports]
  rw [RuleSet.rerun_chain hstep, fixHandlers_nestedImports 0]
  simp

theorem not_fixHandlers_settles : ¬ fixHandlers.Settles :=
  RuleSet.not_settles_of_fired fixHandlers_fires_again

def stateField : Text := Text.spell "state."

def nestedAccess (depth : Nat) : Text := stateField.copies depth ++ bareAccess

theorem clears_nestedAccess {fixed : Text} (hfield : fixed.clears stateField = true)
    (haccess : fixed.clears bareAccess = true) (depth : Nat) :
    fixed.clears (nestedAccess depth) = true :=
  Text.clears_append (Text.clears_copies hfield depth) haccess

theorem not_within_nestedAccess {needle : Text} (hne : needle ≠ [])
    (hfield : needle.clears stateField = true) (haccess : needle.clears bareAccess = true)
    (depth : Nat) : needle.within (nestedAccess depth) = false :=
  Text.not_within_of_clears hne (clears_nestedAccess hfield haccess depth)

theorem authDirect_nestedAccess (depth : Nat) :
    authDirect.apply (nestedAccess (depth + 1)) = nestedAccess depth := by
  have hnested : nestedAccess (depth + 1) =
      stateField.copies depth ++ ((stateField ++ bareAccess) ++ []) := by
    rw [nestedAccess, Text.copies, ← Text.copies_comm, List.append_nil, List.append_assoc]
  have hbegins : Form.stateAuth.pattern.Begins (Text.spell "state.auth") :=
    Pattern.begins_look Pattern.begins_lit
  rw [Form.stateAuth.apply_rewrite rfl rfl rfl rfl, hnested,
    hbegins.rewrite_copies (by decide) depth (by decide) (by decide) (by decide +kernel)
      (by decide +kernel) rfl, Replacement.acts_template, List.append_nil, String.toList_ofList]
  rfl

theorem earlier_nestedAccess (depth : Nat) :
    ∀ rule ∈ revertHandlers.rules.take 6, rule.apply (nestedAccess depth) = nestedAccess depth := by
  have hstate : Text.within "State(state)".toList (nestedAccess depth) = false :=
    not_within_nestedAccess (by decide) (by decide) (by decide) depth
  intro rule hr
  simp only [revertHandlers, RuleSet.ofRules, List.take_succ_cons, List.take_zero, List.mem_cons,
    List.not_mem_nil, or_false] at hr
  rcases hr with rfl | rfl | rfl | rfl | rfl | rfl
  · exact Form.appStateLine.apply_of_clears rfl Pattern.begins_lit (by decide)
      (clears_nestedAccess (by decide) (by decide) depth)
  · refine Rule.apply_of_guard_false ?_
    change Guard.holds (.all [.lacks "Extension".toList, .contains "State(state)".toList]) _ = false
    simp only [Guard.holds, Guard.allHold, hstate, Bool.false_and, Bool.and_false]
  · refine Rule.apply_of_guard_false ?_
    change Guard.holds (.all [.lacks "Extension".toList, .contains "State(state)".toList, _]) _ = false
    simp only [Guard.holds, Guard.allHold, hstate, Bool.false_and, Bool.and_false]
  · exact Form.sharedState.apply_of_clears rfl Pattern.begins_lit (by decide)
      (clears_nestedAccess (by decide) (by decide) depth)
  · exact Form.handlerHeader.apply_of_no_header rfl (Pattern.begins_lit.not_occurs (by decide)
      (clears_nestedAccess (by decide) (by decide) depth) none)
  · exact Form.statePool.apply_of_clears rfl Pattern.begins_lit (by decide)
      (clears_nestedAccess (by decide) (by decide) depth)

theorem later_nestedAccess (depth : Nat) :
    ∀ rule ∈ revertHandlers.rules.drop 7, rule.apply (nestedAccess depth) = nestedAccess depth := by
  have hpool : Text.within "&*pool".toList (nestedAccess depth) = false :=
    not_within_nestedAccess (by decide) (by decide) (by decide) depth
  have htype : Text.within "Arc<PgPool>".toList (nestedAccess depth) = false :=
    not_within_nestedAccess (by decide) (by decide) (by decide) depth
  have harc : Text.within "Arc<".toList (nestedAccess depth) = false :=
    not_within_nestedAccess (by decide) (by decide) (by decide) depth
  have hauth : authUnimported.holds (nestedAccess depth) = false := by
    rw [authUnimported_holds, not_within_nestedAccess (by decide) (by decide) (by decide) depth]
    rfl
  intro rule hr
  refine Rule.apply_of_guard_false ?_
  simp only [revertHandlers, RuleSet.ofRules, List.drop_succ_cons, List.drop_zero, List.mem_cons,
    List.not_mem_nil, or_false] at hr
  rcases hr with rfl | rfl | rfl | rfl | rfl
  · change Guard.holds (.all [.any [.contains "&*pool".toList, .contains "Arc<PgPool>".toList], _]) _
      = false
    simp only [Guard.holds, Guard.allHold, Guard.anyHolds, hpool, htype, Bool.or_false,
      Bool.false_and]
  · change Guard.holds (.all [.contains "Arc<".toList, _]) _ = false
    simp only [Guard.holds, Guard.allHold, harc, Bool.false_and]
  · exact hauth
  · exact hauth
  · change Guard.holds (.all (authUnimported :: _)) _ = false
    rw [Guard.holds, Guard.allHold, hauth, Bool.false_and]

theorem revertHandlers_nestedAccess (depth : Nat) :
    revertHandlers.apply (nestedAccess (depth + 1)) = ⟨nestedAccess depth, ["auth-direct"]⟩ := by
  refine RuleSet.apply_of_only (revertHandlers.rules.take 6) (revertHandlers.rules.drop 7) rfl
    (earlier_nestedAccess (depth + 1)) (authDirect_nestedAccess depth) ?_ (later_nestedAccess depth)
  intro hsame
  have hlength := congrArg List.length hsame
  rw [nestedAccess, nestedAccess, Text.copies] at hlength
  simp only [List.length_append] at hlength
  have hfield : stateField.length = 6 := rfl
  omega

/-- However often the rules for separate parameters have been applied, there are texts on which they
fire once more. -/
theorem revertHandlers_fires_again (runs : Nat) :
    ∃ text, (revertHandlers.apply (revertHandlers.rerun runs text)).fired ≠ [] := by
  refine ⟨nestedAccess (1 + runs), ?_⟩
  have hstep (depth : Nat) :
      (revertHandlers.apply (nestedAccess (depth + 1))).content = nestedAccess depth := by
    rw [revertHandlers_nestedAccess]
  rw [RuleSet.rerun_chain hstep, revertHandlers_nestedAccess 0]
  simp

theorem not_revertHandlers_settles : ¬ revertHandlers.Settles :=
  RuleSet.not_settles_of_fired revertHandlers_fires_again

end Catalog

end Recast
