import Recast.Catalog.Leftovers
import Recast.Proofs.Catalog.ExtensionGroup

/-! The rules that add imports fire once. What such a rule adds makes its own guard fail: a marker that
has to be absent, or the import that the guard looks for with a pattern. The one exception is the rule
that adds `Extension` to a group where its guard asks for the pattern. -/

namespace Recast

namespace Catalog

open Pattern

/-- The rules that add imports, but for the one that is guarded by the pattern for `Extension` and adds
to a group. -/
def importRules : List Rule :=
  [importAppState, importExtension, claimsIntoGroup, claimsIntoSingle, importClaims,
    revertExtensionGrouped, revertExtension, importPgPool, importArc, authIntoGroup, authIntoSingle,
    importAuth, importHashMap]

theorem importAppState_oneShot : importAppState.OneShot := by
  refine Rule.oneShot_of_marker appStateImport rfl (by decide +kernel) fun text h => ?_
  change (!appStateImport.within text) = false
  rw [h]
  rfl

theorem importHashMap_oneShot : importHashMap.OneShot := by
  refine Rule.oneShot_of_marker hashMapImport rfl (by decide +kernel) fun text h => ?_
  change (!hashMapImport.within text) = false
  rw [h]
  rfl

theorem importPgPool_oneShot : importPgPool.OneShot := by
  refine Rule.oneShot_of_marker poolImport rfl (by decide +kernel) fun text h => ?_
  have hguard : importPgPool.guard =
      .all [.any [.contains "&*pool".toList, .contains "Arc<PgPool>".toList], .lacks poolImport] := rfl
  rw [hguard]
  simp [Guard.holds, Guard.allHold, h]

theorem importArc_oneShot : importArc.OneShot := by
  refine Rule.oneShot_of_marker arcImport rfl (by decide +kernel) fun text h => ?_
  have hguard : importArc.guard = .all [.contains "Arc<".toList, .lacks arcImport] := rfl
  rw [hguard]
  simp [Guard.holds, Guard.allHold, h]

theorem extensionUnknown_holds {text : Text} (more : List Guard)
    (h : Text.within extensionName text = true) :
    (Guard.all (extensionUnknown ++ more)).holds text = false := by
  have hlacks : Guard.holds (.lacks "Extension".toList) text = false := by
    rw [Guard.holds]
    rw [extensionName, Text.spell_eq] at h
    rw [h]
    rfl
  rw [extensionUnknown, Guard.holds, List.cons_append, Guard.allHold, hlacks, Bool.false_and]

theorem revertExtension_oneShot : revertExtension.OneShot := by
  refine Rule.oneShot_of_marker extensionName rfl (by decide +kernel) fun text h => ?_
  exact extensionUnknown_holds _ h

theorem revertExtensionGrouped_oneShot : revertExtensionGrouped.OneShot := by
  refine Rule.oneShot_of_guard fun text => ?_
  have hmatcher : revertExtensionGrouped.matcher = .braced frameworkGroup := rfl
  have haction : revertExtensionGrouped.action = .replace (.computed appendExtension) .first := rfl
  rcases apply_group_cases hmatcher haction text with
    hsame | ⟨before, inner, after, -, -, happly⟩
  · exact .inl hsame
  · obtain ⟨kept, trail, gap, last, -, hextended⟩ := appendExtension_grouped inner
    right
    rw [happly, hextended]
    refine extensionUnknown_holds [] ?_
    rw [Text.within_iff_isInfix]
    exact ⟨before ++ (frameworkUse ++ '\x7b' :: (kept ++ ',' :: gap)), last ++ '\x7d' :: after,
      by simp [grouped, withExtension]⟩

theorem occurs_extensionLine (front back : Text) :
    Form.extensionImport.pattern.occurs none (front ++ (extensionImportLine ++ back)) = true := by
  have hend : Text.wordy (';' :: '\n' :: back).head? = false := by
    change Text.isWord ';' = false
    decide
  refine (occurs_extensionImport _).mpr ⟨front, extensionName ++ ';' :: '\n' :: back, ?_, .alone hend⟩
  have hline : extensionImportLine = frameworkUse ++ (extensionName ++ [';', '\n']) := by decide
  rw [hline]
  simp

theorem importExtension_oneShot : importExtension.OneShot := by
  refine Rule.oneShot_of_guard fun text => ?_
  have haction : importExtension.action = .insert extensionImportLine .after := rfl
  rcases Rule.apply_insert_cases haction text with hsame | ⟨front, back, -, happly⟩
  · exact .inl hsame
  · right
    have hunimported : extensionUnimported.holds (importExtension.apply text) = false := by
      rw [extensionUnimported_holds, happly, occurs_extensionLine, Bool.not_true]
    have hguard : importExtension.guard =
        .all [.contains "Extension(".toList, extensionUnimported,
          .unmatched (.regex frameworkGroup)] := rfl
    rw [hguard, Guard.holds, Guard.allHold, Guard.allHold, hunimported, Bool.false_and,
      Bool.and_false]

def claimsName : Text := Text.spell "Claims"

def authTypeName : Text := Text.spell "Auth"

theorem isName_claims : IsName claimsName := ⟨by decide, List.all_eq_true.mp (by decide)⟩

theorem isName_authType : IsName authTypeName := ⟨by decide, List.all_eq_true.mp (by decide)⟩

theorem claimsUnimported_of_occurs {text : Text}
    (h : (Form.authImport claimsName).occurs none text = true) :
    claimsUnimported.holds text = false := by
  have hpattern : Form.claimsImport.pattern = Form.authImport claimsName := rfl
  rw [claimsUnimported_holds, hpattern, h, Bool.not_true, Bool.and_false]

theorem authUnimported_of_occurs {text : Text}
    (h : (Form.authImport authTypeName).occurs none text = true) :
    authUnimported.holds text = false := by
  have hpattern : Form.authTypeImport.pattern = Form.authImport authTypeName := rfl
  rw [authUnimported_holds, hpattern, h, Bool.not_true, Bool.and_false]

/-- A rule that joins a name with a group of the auth module fires once if its guard asks for a text
that does not import the name. -/
theorem oneShot_of_joined {rule : Rule} {name : Text} (hname : IsName name)
    (hjoined : ∀ text, rule.apply text = text ∨
      Joined (name ++ Text.spell ", ") text (rule.apply text))
    (hg : ∀ text, (Form.authImport name).occurs none text = true → rule.guard.holds text = false) :
    rule.OneShot := by
  refine Rule.oneShot_of_guard fun text => ?_
  rcases hjoined text with hsame | hadded
  · exact .inl hsame
  · exact .inr (hg _ (hadded.imports hname))

theorem oneShot_of_authLine {rule : Rule} {name : Text} {side : Side} (hname : IsName name)
    (ha : rule.action = .insert (authModule ++ name ++ Text.spell ";\n") side)
    (hg : ∀ text, (Form.authImport name).occurs none text = true → rule.guard.holds text = false) :
    rule.OneShot := by
  refine Rule.oneShot_of_guard fun text => ?_
  rcases Rule.apply_insert_cases ha text with hsame | ⟨front, back, -, happly⟩
  · exact .inl hsame
  · right
    rw [happly]
    exact hg _ (hname.imports_line front back)

theorem claimsIntoGroup_oneShot : claimsIntoGroup.OneShot :=
  oneShot_of_joined isName_claims
    (fun _ => joined_of_group (by decide) rfl rfl) fun _ => claimsUnimported_of_occurs

theorem claimsIntoSingle_oneShot : claimsIntoSingle.OneShot :=
  oneShot_of_joined isName_claims
    (fun _ => joined_of_single (by decide) rfl rfl) fun _ => claimsUnimported_of_occurs

theorem importClaims_oneShot : importClaims.OneShot := by
  refine oneShot_of_authLine isName_claims rfl fun text h => ?_
  have hguard : importClaims.guard =
      .all [claimsUnimported, .lacks "use crate::auth::".toList] := rfl
  rw [hguard, Guard.holds, Guard.allHold, claimsUnimported_of_occurs h, Bool.false_and]

theorem authIntoGroup_oneShot : authIntoGroup.OneShot :=
  oneShot_of_joined isName_authType
    (fun _ => joined_of_group (by decide) rfl rfl) fun _ => authUnimported_of_occurs

theorem authIntoSingle_oneShot : authIntoSingle.OneShot :=
  oneShot_of_joined isName_authType
    (fun _ => joined_of_single (by decide) rfl rfl) fun _ => authUnimported_of_occurs

theorem importAuth_oneShot : importAuth.OneShot := by
  refine oneShot_of_authLine isName_authType rfl fun text h => ?_
  have hguard : importAuth.guard =
      .all [authUnimported, .lacks "use crate::auth::".toList] := rfl
  rw [hguard, Guard.holds, Guard.allHold, authUnimported_of_occurs h, Bool.false_and]

theorem oneShot_of_mem_importRules {rule : Rule} (h : rule ∈ importRules) : rule.OneShot := by
  simp only [importRules, List.mem_cons, List.not_mem_nil, or_false] at h
  rcases h with rfl | rfl | rfl | rfl | rfl | rfl | rfl | rfl | rfl | rfl | rfl | rfl | rfl
  · exact importAppState_oneShot
  · exact importExtension_oneShot
  · exact claimsIntoGroup_oneShot
  · exact claimsIntoSingle_oneShot
  · exact importClaims_oneShot
  · exact revertExtensionGrouped_oneShot
  · exact revertExtension_oneShot
  · exact importPgPool_oneShot
  · exact importArc_oneShot
  · exact authIntoGroup_oneShot
  · exact authIntoSingle_oneShot
  · exact importAuth_oneShot
  · exact importHashMap_oneShot

/-- A rule that adds an import does not fire on what it gave. In a rule set that repeats it, however
often and between whatever other rules, it fires at most once in a row. -/
theorem imports_added_once (rule : Rule) (hr : rule ∈ importRules) :
    (∀ text out, rule.fire? text = some out → rule.fire? out = none) ∧
      ∀ (set : RuleSet) (before after : List Rule) (n : Nat),
        set.rules = before ++ (List.replicate n rule ++ after) → ∀ text,
          ∃ names, (names = [] ∨ names = [rule.name]) ∧
            (set.apply text).fired = RuleSet.firedBy before text ++ (names ++
              RuleSet.firedBy after
                (RuleSet.throughAll (before ++ List.replicate n rule) text)) :=
  ⟨oneShot_of_mem_importRules hr, fun _ _ _ _ hset text =>
    RuleSet.fired_of_repeated (oneShot_of_mem_importRules hr) hset text⟩

/-- Two insertions of the line for the shared state, in a file that imports from the framework. -/
theorem imports_added_once_appState :
    importAppState ∈ importRules ∧
      importAppState.fire? (Text.spell "use axum::Json;\n") =
        some (Text.spell "use axum::Json;\nuse crate::api::AppState;\n") ∧
      importAppState.fire? (Text.spell "use axum::Json;\nuse crate::api::AppState;\n") = none ∧
      ∃ names, (names = [] ∨ names = ["import-app-state"]) ∧
        ((RuleSet.ofRules "twice" (List.replicate 2 importAppState)).apply
          (Text.spell "use axum::Json;\n")).fired = [] ++ (names ++ []) := by
  have hmem : importAppState ∈ importRules := List.mem_cons_self
  have hfires : importAppState.fire? (Text.spell "use axum::Json;\n") =
      some (Text.spell "use axum::Json;\nuse crate::api::AppState;\n") := by decide +kernel
  refine ⟨hmem, hfires, (imports_added_once importAppState hmem).1 _ _ hfires, ?_⟩
  exact (imports_added_once importAppState hmem).2
    (RuleSet.ofRules "twice" (List.replicate 2 importAppState)) [] [] 2 rfl _

end Catalog

end Recast
