import Recast.Proofs.Catalog.AuthParameter
import Recast.Proofs.Catalog.ImportPatches
import Recast.Proofs.Catalog.Repairs

/-! The rules for separate parameters leave no parameter with the shared state behind and no access to
its pool, in any text. Each of the two is gone once its rule has been applied, and what a later rule
puts into the text makes no new one. -/

namespace Recast.Catalog

open Pattern

inductive AuthInjected : Text → Text → Prop where
  | behind : AuthInjected poolParam (poolParam ++ (",\n    ".toList ++ authParam))

theorem patched_injectAuth (item : Text) : Patched AuthInjected item (injectAuth item) := by
  by_cases hcut : ∃ front back, item = front ++ back ∧ AuthCut front back
  · obtain ⟨_, _, rfl, before, after, body, rfl, rfl, h⟩ := hcut
    have hstep : Patched AuthInjected (before ++ (poolParam ++ (after ++ body)))
        (before ++ ((poolParam ++ authEntry) ++ (after ++ body))) :=
      .step (.refl _) .behind
    rw [h.injectAuth_eq]
    simpa only [List.append_assoc] using hstep
  · rw [injectAuth_putsIn.kept fun front back heq h => hcut ⟨front, back, heq, h⟩]
    exact .refl item

theorem patched_injectAuthExtension (text : Text) :
    Patched AuthInjected text (injectAuthExtension.apply text) := by
  by_cases hg : injectAuthExtension.guard.holds text = true
  · rw [Form.handlerHeader.apply_rewriteItems rfl rfl hg]
    exact patched_rewriteItems patched_injectAuth text 0 none
  · rw [Rule.apply_of_guard_false (by simpa using hg)]
    exact .refl text

theorem poolParam_spelled :
    poolParam = Text.spell "Extension(pool): Extension<Arc<PgPool>>" :=
  (Text.spell_eq _).symm

theorem blind_sharedState (old new : Text) : Form.sharedState.pattern.Blind old new :=
  blind_of_lookless (by decide) (by decide)

/-- A text that begins with a character that no parameter with the shared state contains. -/
theorem shut_sharedState {c : Char} {more : Text}
    (hc : c ∉ Text.spell "State(state):" ++ (Text.spell "State<AppState" ++ ['>']))
    (hblank : CharClass.blank.has c = false)
    (hbegin : (Text.spell "State(state):").clears (c :: more) = true) :
    Form.sharedState.pattern.Shut (c :: more) := by
  refine ⟨by simp, stops_of_clears fun hreads => ?_, begins_lit.quiet hbegin⟩
  exact Text.clears_of_head_notin fun hmem => notin_param hc hblank hreads (List.mem_of_mem_tail hmem)

/-- No parameter with the shared state ends with the beginning of an access to auth. -/
theorem shut_sharedState_bareAccess : Form.sharedState.pattern.Shut bareAccess := by
  refine ⟨by decide, stops_of_clears fun hreads => ?_, begins_lit.quiet (by decide)⟩
  refine Text.clears_of_notin (by decide : 'u' ∈ bareAccess) (fun hmem => ?_) fun d hd => ?_
  · exact notin_param (by decide) (by decide) hreads (List.mem_of_mem_tail hmem)
  · obtain ⟨blanks, -, rfl⟩ := reads_param hreads
    have htail : (Text.spell "State(state):" ++ (blanks ++ (Text.spell "State<AppState" ++ ['>']))).tail =
        (Text.spell "tate(state):" ++ (blanks ++ Text.spell "State<AppState")) ++ ['>'] := by
      simp [Text.spell]
    rw [htail, List.getLast?_concat] at hd
    rw [← Option.some.inj hd]
    decide

theorem sharedState_extractPoolExtension (text : Text) :
    Form.sharedState.pattern.occurs none (extractPoolExtension.apply text) = false := by
  have ha : extractPoolExtension.action = .replace (.template poolParam) .all := rfl
  rw [poolParam_spelled] at ha
  exact Form.sharedState.not_occurs_apply_fixed rfl rfl ha (by decide)
    (shut_sharedState (by decide) (by decide) (by decide)) fun _ => blind_sharedState _ _

theorem sharedState_injectAuthExtension {text : Text}
    (h : Form.sharedState.pattern.occurs none text = false) :
    Form.sharedState.pattern.occurs none (injectAuthExtension.apply text) = false := by
  refine (patched_injectAuthExtension text).not_occurs (fun hpatch => ?_) h
  cases hpatch
  have hnew : poolParam ++ (",\n    ".toList ++ authParam) =
      Text.spell "Extension(pool): Extension<Arc<PgPool>>,\n    Extension(auth): Extension<Arc<Auth>>" := by
    decide
  rw [hnew]
  exact ⟨shut_sharedState (by decide) (by decide) (by decide), blind_sharedState _ _⟩

theorem poolDirect_action : poolDirect.action = .replace (.template (Text.spell "&*pool")) .all := by
  have hfresh : Text.spell "&*pool" = "&*pool".toList := Text.spell_eq _
  rw [hfresh]
  rfl

theorem sharedState_poolDirect {text : Text}
    (h : Form.sharedState.pattern.occurs none text = false) :
    Form.sharedState.pattern.occurs none (poolDirect.apply text) = false :=
  Form.statePool.kept_apply_fixed rfl rfl poolDirect_action (by decide)
    (shut_sharedState (by decide) (by decide) (by decide)) (fun _ => blind_sharedState _ _) h

theorem statePool_poolDirect (text : Text) :
    Form.statePool.pattern.occurs none (poolDirect.apply text) = false := by
  refine Form.statePool.not_occurs_apply_fixed rfl rfl poolDirect_action (by decide)
    ⟨by decide, stops_of_clears fun hreads => ?_, begins_lit.quiet (by decide)⟩ fun hreads => ?_
  · rw [found_statePool hreads]
    decide
  · rw [found_statePool hreads]
    exact blind_of_edged (by decide) (by decide) (by decide)

theorem authDirect_action : authDirect.action = .replace (.template bareAccess) .all := by
  have hfresh : bareAccess = "auth.".toList := Text.spell_eq _
  rw [hfresh]
  rfl

theorem sharedState_authDirect {text : Text}
    (h : Form.sharedState.pattern.occurs none text = false) :
    Form.sharedState.pattern.occurs none (authDirect.apply text) = false :=
  Form.stateAuth.kept_apply_fixed rfl rfl authDirect_action (by decide) shut_sharedState_bareAccess
    (fun _ => blind_sharedState _ _) h

theorem statePool_authDirect {text : Text}
    (h : Form.statePool.pattern.occurs none text = false) :
    Form.statePool.pattern.occurs none (authDirect.apply text) = false := by
  refine Form.stateAuth.kept_apply_fixed rfl rfl authDirect_action (by decide)
    ⟨by decide, stops_of_clears fun hreads => ?_, begins_lit.quiet (by decide)⟩
    (fun hreads => ?_) h
  · rw [found_statePool hreads]
    decide
  · rw [(reads_stateAuth.mp hreads).2]
    exact blind_of_edged (by decide) (by decide) (by decide)

/-- Whatever the text, the rules for separate parameters leave no parameter with the shared state and
no access to its pool. -/
theorem revertHandlers_leaves_no_shared_state (text : Text) :
    extractPoolExtension.matcher.isMatch (revertHandlers.apply text).content = false ∧
      poolDirect.matcher.isMatch (revertHandlers.apply text).content = false := by
  have hrules : revertHandlers.rules =
      [dropAppStateImport, revertExtensionGrouped, revertExtension] ++
        ([extractPoolExtension, injectAuthExtension, poolDirect, authDirect] ++
          revertHandlers.rules.drop 7) :=
    rfl
  rw [RuleSet.apply_content, hrules, RuleSet.throughAll_append, RuleSet.throughAll_append]
  generalize RuleSet.throughAll [dropAppStateImport, revertExtensionGrouped, revertExtension] text =
    cleared
  have hshared := sharedState_authDirect (sharedState_poolDirect
    (sharedState_injectAuthExtension (sharedState_extractPoolExtension cleared)))
  have hpool := statePool_authDirect (statePool_poolDirect
    (injectAuthExtension.apply (extractPoolExtension.apply cleared)))
  constructor
  · exact (Form.sharedState.isMatch _).trans
      (foreign_sharedState.not_occurs (fun _ hr => .inr hr) hshared)
  · exact (Form.statePool.isMatch _).trans
      (foreign_statePool.not_occurs (fun _ hr => .inr hr) hpool)

end Recast.Catalog
