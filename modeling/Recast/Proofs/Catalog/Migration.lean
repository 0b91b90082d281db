import Recast.Proofs.Catalog.AuthAccess
import Recast.Proofs.Catalog.HandlerText

/-! The rules for the shared state turn every file with separate parameters into the file with the
shared state, and leave that file alone. Each rule that fires changes one piece of the spelling, so
the files between the rules are spelled by conventions that lie between the two. -/

namespace Recast.Catalog

theorem quiet_called_authAccess (prev : Option Char) (f : Identifier) :
    Form.authAccess.pattern.Quiet prev f.called := by
  intro left right tail heq hne
  obtain ⟨chars, rfl, hchars⟩ := suffix_called heq hne
  refine Pattern.width?_eq_none_iff_reads.mpr ?_
  intro first more hcut hreads
  rw [List.append_assoc] at hcut
  obtain ⟨_, rfl | ⟨name, hname, rfl⟩⟩ := reads_authAccess.mp hreads
  · exact not_prefix_name (by decide) hchars tail ⟨more, hcut.symm⟩
  · rw [List.append_assoc] at hcut
    have hsame := Text.append_cons_inj (fun c hc => isWord_of_isNameChar (hchars c hc)) (by decide)
      hname.word (by decide) hcut
    exact absurd hsame.2.1 (by decide)

/-- A bare access to auth at the start of a call is routed through the shared state. What follows it
is a name, so the access is not the receiver of another one. -/
theorem passes_authAccess (f : Identifier) :
    Form.authAccess.pattern.Passes routeAuth (some ' ') (separate.auth ++ f.called)
      (shared.auth ++ f.called) := by
  intro tail
  have hbare : separate.auth = bareAccess := rfl
  have hnext : ¬ bareAccess <+: f.called ++ tail := by
    rw [called_eq, List.append_assoc]
    exact not_prefix_name (by decide) f.lower tail
  have hwidth : Form.authAccess.pattern.width? (some ' ') (bareAccess ++ (f.called ++ tail)) =
      some bareAccess.length :=
    width?_bare (by decide) hnext
  rw [hbare, List.append_assoc, Pattern.rewriteFrom_of_width? (by decide) hwidth,
    (quiet_called_authAccess _ f).passes tail, routeAuth_bare, ← List.append_assoc,
    Text.lastFrom_append]
  rfl

namespace Migration

/-! The conventions between the rules, each named for what has been done. -/

def poolImportsDropped : Convention :=
  { separate with imports := Text.spell "use axum::\x7bextract::State, Json\x7d;\n" }

def appStateImported : Convention := { separate with imports := shared.imports }

def poolExtracted : Convention := { appStateImported with poolParam := shared.poolParam }

def authParamDropped : Convention := { poolExtracted with authParam := [] }

def poolRouted : Convention :=
  { authParamDropped with poolOnce := shared.poolOnce, poolTwice := shared.poolTwice }

def authRouted : Convention := { poolRouted with auth := shared.auth }

variable (fs : List Handler)

theorem dropRawPoolImports_file :
    dropRawPoolImports.apply (separate.file fs) = poolImportsDropped.file fs :=
  Form.rawPoolImports.apply_file rfl rfl rfl Pattern.begins_lit (by decide)
    (by decide +kernel) (by decide +kernel) rfl

theorem importAppState_file :
    importAppState.apply (poolImportsDropped.file fs) = appStateImported.file fs := by
  have hlacks : appStateImport.within (poolImportsDropped.file fs) = false :=
    not_within_file (by decide) (by decide) (by decide) fs
  have hg : importAppState.guard.holds (poolImportsDropped.file fs) = true := by
    change Guard.holds (.lacks appStateImport) _ = true
    rw [Guard.holds, hlacks, Bool.not_false]
  have hline : poolImportsDropped.imports = [] ++ poolImportsDropped.imports := rfl
  have himports : poolImportsDropped.imports ++ (appStateImport ++ ['\n']) =
      appStateImported.imports := by
    decide
  have hrest : poolImportsDropped.rest fs = appStateImported.rest fs :=
    (Convention.rest_with_imports separate _ fs).trans
      (Convention.rest_with_imports separate _ fs).symm
  rw [Form.frameworkLine.apply_file_insert rfl rfl hline rfl (by decide) hg, himports,
    hrest, Convention.file_eq]

theorem extractAppState_file :
    extractAppState.apply (appStateImported.file fs) = poolExtracted.file fs :=
  Form.poolState.apply_file rfl rfl rfl Pattern.begins_lit (by decide)
    (by decide) (by decide) rfl

theorem dropAuthParam_file :
    dropAuthParam.apply (poolExtracted.file fs) = authParamDropped.file fs :=
  Form.authState.apply_file rfl rfl rfl Pattern.begins_lit (by decide)
    (by decide) (by decide) rfl

theorem poolViaState_file :
    poolViaState.apply (authParamDropped.file fs) = poolRouted.file fs :=
  Form.poolDeref.apply_file rfl rfl rfl Pattern.begins_lit (by decide)
    (by decide) (by decide) rfl

theorem authViaState_apply {before after : Convention}
    (hturns : before.turns after Form.authAccess.pattern routeAuth = true)
    (hbare : before.auth = separate.auth) (hrouted : after.auth = shared.auth) :
    authViaState.apply (before.file fs) = after.file fs := by
  rw [Form.authAccess.apply_rewrite rfl rfl rfl rfl, Replacement.acts_computed]
  refine rewrite_file hturns quiet_called_authAccess ?_ fs
  rw [hbare, hrouted]
  exact passes_authAccess

theorem authViaState_file :
    authViaState.apply (poolRouted.file fs) = authRouted.file fs :=
  authViaState_apply fs (by decide) rfl rfl

theorem extractAppStateAny_file :
    extractAppStateAny.apply (authRouted.file fs) = authRouted.file fs :=
  Form.poolStateAny.apply_file_quiet rfl Pattern.begins_lit (by decide)
    (by decide) fs

theorem dropAuthImport_guard (text : Text) :
    dropAuthImport.guard.holds text =
      (Text.within "state.auth".toList text && (Text.within "Auth;".toList text &&
        !Form.authLiteral.pattern.occurs none text)) := by
  change Guard.holds (.all [.contains "state.auth".toList, .contains "Auth;".toList, .unmatched _]) text
    = _
  simp only [Guard.holds, Guard.allHold, Bool.and_true]
  exact congrArg (fun b => _ && (_ && !b)) (Form.authLiteral.isMatch text)

/-- The import of auth is dropped from a file that uses auth; any other file does not have it. -/
theorem dropAuthImport_file :
    dropAuthImport.apply (authRouted.file fs) = shared.file fs := by
  cases hused : fs.any Handler.usesAuth with
  | false =>
    have hsame : authRouted.file fs = shared.file fs :=
      shared.file_with_authImport separate.authImport hused
    rw [hsame]
    exact Form.authImportLine.apply_file_quiet rfl Pattern.begins_lit (by decide)
      (by decide) fs
  | true =>
    have haccess : Text.within "state.auth".toList (authRouted.file fs) = true := by
      refine (Text.within_iff_isInfix _ _).mpr (List.IsInfix.trans ?_ (authRouted.auth_infix hused))
      exact (Text.within_iff_isInfix _ _).mp (by decide)
    have himport : Text.within "Auth;".toList (authRouted.file fs) = true := by
      refine (Text.within_iff_isInfix _ _).mpr
        (List.IsInfix.trans ?_ (authRouted.authImport_infix hused))
      exact (Text.within_iff_isInfix _ _).mp (by decide)
    have hliteral : Form.authLiteral.pattern.occurs none (authRouted.file fs) = false :=
      Form.authLiteral.not_occurs_file Pattern.begins_lit (by decide) (by decide) fs
    have hg : dropAuthImport.guard.holds (authRouted.file fs) = true := by
      rw [dropAuthImport_guard, haccess, himport, hliteral]
      rfl
    exact Form.authImportLine.apply_file rfl rfl rfl Pattern.begins_lit (by decide)
      (by decide +kernel) (by decide +kernel) hg

theorem not_within_shared :
    Text.within "Extension(".toList (shared.file fs) = false ∧
      Text.within "claims: Claims".toList (shared.file fs) = false ∧
      Text.within "Claims,".toList (shared.file fs) = false :=
  ⟨not_within_file (by decide) (by decide) (by decide) fs,
    not_within_file (by decide) (by decide) (by decide) fs,
    not_within_file (by decide) (by decide) (by decide) fs⟩

theorem apply_shared : ∀ rule ∈ fixHandlers.rules, rule.apply (shared.file fs) = shared.file fs := by
  obtain ⟨hextension, htyped, hlisted⟩ := not_within_shared fs
  intro rule hr
  rw [← List.take_append_drop 8 fixHandlers.rules, List.mem_append] at hr
  rcases hr with hr | hr
  · simp only [fixHandlers, RuleSet.ofRules, List.take_succ_cons, List.take_zero, List.mem_cons,
      List.not_mem_nil, or_false] at hr
    rcases hr with rfl | rfl | rfl | rfl | rfl | rfl | rfl | rfl
    · exact Form.rawPoolImports.apply_file_quiet rfl Pattern.begins_lit (by decide)
        (by decide) fs
    · have himport : appStateImport.within (shared.file fs) = true := by
        rw [Text.within_iff_isInfix, Convention.file_eq]
        refine List.IsInfix.trans ?_ (List.prefix_append _ _).isInfix
        exact (Text.within_iff_isInfix _ _).mp (by decide)
      refine Rule.apply_of_guard_false ?_
      change Guard.holds (.lacks appStateImport) _ = false
      rw [Guard.holds, himport, Bool.not_true]
    · exact Form.poolState.apply_file_quiet rfl Pattern.begins_lit (by decide)
        (by decide) fs
    · exact Form.authState.apply_file_quiet rfl Pattern.begins_lit (by decide)
        (by decide) fs
    · exact Form.poolDeref.apply_file_quiet rfl Pattern.begins_lit (by decide)
        (by decide) fs
    · have hturns : shared.turns shared Form.authAccess.pattern routeAuth = true := by
        decide
      rw [Form.authAccess.apply_rewrite rfl rfl rfl rfl, Replacement.acts_computed]
      exact rewrite_file hturns quiet_called_authAccess
        (passes_auth (by decide) quiet_called_authAccess) fs
    · exact Form.poolStateAny.apply_file_quiet rfl Pattern.begins_lit (by decide)
        (by decide) fs
    · exact Form.authImportLine.apply_file_quiet rfl Pattern.begins_lit (by decide)
        (by decide) fs
  · exact imports_unneeded hextension htyped hlisted rule hr

end Migration

theorem fixHandlers_file (handlers : List Handler) :
    (fixHandlers.apply (separate.file handlers)).content = shared.file handlers := by
  -- The first eight rules make the change, and the others add imports that these files do not need.
  have hrules : fixHandlers.rules =
      [dropRawPoolImports, importAppState, extractAppState, dropAuthParam, poolViaState,
        authViaState, extractAppStateAny, dropAuthImport] ++ fixHandlers.rules.drop 8 :=
    rfl
  rw [RuleSet.apply_content, hrules, RuleSet.throughAll_append]
  simp only [RuleSet.throughAll, List.foldl_cons, List.foldl_nil,
    Migration.dropRawPoolImports_file, Migration.importAppState_file,
    Migration.extractAppState_file, Migration.dropAuthParam_file, Migration.poolViaState_file,
    Migration.authViaState_file, Migration.extractAppStateAny_file, Migration.dropAuthImport_file]
  exact RuleSet.throughAll_of_quiet fun rule hr =>
    Migration.apply_shared handlers rule (List.mem_of_mem_drop hr)

/-- The rules for the shared state turn every file with separate parameters into the file of the same
handlers with the shared state, in which they then find nothing more to do. -/
theorem fixHandlers_migrates (handlers : List Handler) :
    (fixHandlers.apply (separate.file handlers)).content = shared.file handlers ∧
      fixHandlers.apply (shared.file handlers) = ⟨shared.file handlers, []⟩ :=
  ⟨fixHandlers_file handlers,
    (RuleSet.apply_eq_self_iff _ _).mpr (Migration.apply_shared handlers)⟩

end Recast.Catalog
