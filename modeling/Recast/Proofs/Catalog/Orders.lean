import Recast.Proofs.Catalog.Migration
import Recast.Proofs.Catalog.Repairs
import Recast.Proofs.Catalog.Restoration
import Recast.Proofs.Shuffling

/-! Which rules of the catalog may be shuffled. The two for the plugins commute. Those for handlers do
not: some that do not name each other depend on their order through guards that look at the whole file.
The import of `Auth` is kept where `Auth` seems to be used as a struct literal, and a parameter of that
type before the body of a handler looks like one; the rule that drops the parameter need not come first.
The import of the pool is added where the pool is used, and the rule that makes the pool a parameter
need not come first. -/

namespace Recast

namespace Catalog

open Pattern

/-- The fields of the plugin manager are matched in one way only, whatever stands before them. -/
theorem Form.managerFields_width? (prev prev' : Option Char) (text : Text) :
    Form.managerFields.pattern.width? prev text = Form.managerFields.pattern.width? prev' text := by
  have hsame {prev prev' : Option Char} {found rest : Text}
      (h : Form.managerFields.pattern.Reads prev found rest) :
      Form.managerFields.pattern.Reads prev' found rest :=
    h.alike Form.managerFields.settled (by decide) (alike_lookless _ _ _ _)
  have honly {prev : Option Char} {found rest first more : Text} (heq : found ++ rest = first ++ more)
      (h : Form.managerFields.pattern.Reads prev found rest)
      (h' : Form.managerFields.pattern.Reads prev first more) : first.length = found.length := by
    obtain ⟨blanks, hblanks, rfl⟩ := Form.managerFields_reads h
    obtain ⟨blanks', hblanks', rfl⟩ := Form.managerFields_reads h'
    simp only [List.append_assoc] at heq
    have hfields := List.append_cancel_left heq
    obtain ⟨rfl, -, -⟩ := Text.append_cons_inj hblanks (by decide) hblanks' (by decide) hfields
    rfl
  by_cases h : ∃ found rest, text = found ++ rest ∧ Form.managerFields.pattern.Reads prev found rest
  · obtain ⟨found, rest, rfl, hreads⟩ := h
    rw [width?_of_reads hreads fun first more heq hfirst => honly heq hreads hfirst,
      width?_of_reads (hsame hreads) fun first more heq hfirst => honly heq (hsame hreads) hfirst]
  · have hnone (prev' : Option Char) : Form.managerFields.pattern.width? prev' text = none :=
      width?_eq_none_iff_reads.mpr fun found rest heq hreads =>
        h ⟨found, rest, heq, hsame hreads⟩
    rw [hnone, hnone]

theorem pluginManagerFields_importHashMap (text : Text) :
    pluginManagerFields.apply (hashMapImport ++ '\n' :: text) =
      hashMapImport ++ '\n' :: pluginManagerFields.apply text := by
  have hquiet : Form.managerFields.pattern.Quiet none (hashMapImport ++ ['\n']) :=
    begins_lit.quiet (by decide) none
  have hstart (prev : Option Char) (new : Text → Text) (text : Text) :
      Form.managerFields.pattern.rewriteFrom new 0 prev text =
        Form.managerFields.pattern.rewriteFrom new 0 none text := by
    cases text with
    | nil => rfl
    | cons c rest => rw [rewriteFrom, rewriteFrom, Form.managerFields_width? prev none]
  have hsplit : hashMapImport ++ '\n' :: text = (hashMapImport ++ ['\n']) ++ text := by simp
  rw [Form.managerFields.apply_rewrite rfl rfl rfl rfl, Form.managerFields.apply_rewrite rfl rfl rfl rfl,
    hsplit, rewrite, hquiet.passes, hstart, List.append_assoc]
  rfl

theorem importHashMap_commutes : importHashMap.Commutes pluginManagerFields := by
  intro text
  rw [importHashMap_apply, importHashMap_apply, within_pluginManagerFields]
  split
  · rfl
  · exact (pluginManagerFields_importHashMap text).symm

theorem finalFixPlugins_orderless : finalFixPlugins.Orderless := by
  refine RuleSet.orderless_of_commutes (by decide) fun rule hr other ho _ _ => ?_
  simp only [finalFixPlugins, RuleSet.ofRules, List.mem_cons, List.not_mem_nil, or_false] at hr ho
  rcases hr with rfl | rfl <;> rcases ho with rfl | rfl
  · exact fun _ => rfl
  · exact importHashMap_commutes
  · exact fun text => (importHashMap_commutes text).symm
  · exact fun _ => rfl

theorem Convention.params_infix (convention : Convention) {handlers : List Handler}
    (h : handlers.any Handler.usesAuth = true) :
    convention.params true <:+: convention.file handlers := by
  obtain ⟨f, hf, hused⟩ := List.any_eq_true.mp h
  refine List.IsInfix.trans ?_ (convention.handler_infix hf)
  refine ⟨header ++ f.name.chars ++ paren, f.body.flatMap convention.statement ++ bodyEnd, ?_⟩
  simp only [Convention.handler, Convention.params, hused, if_true, List.append_assoc]

/-- The rules for the shared state in an order in which the import of auth comes before its
parameter. -/
def fixImportsFirst : RuleSet :=
  .ofRules "fix-handlers"
    [dropRawPoolImports, importAppState, extractAppState, poolViaState, authViaState,
      extractAppStateAny, dropAuthImport, dropAuthParam, importExtensionGrouped, importExtension,
      claimsIntoGroup, claimsIntoSingle, importClaims]

theorem fixImportsFirst_perm : fixImportsFirst.rules.Perm fixHandlers.rules := by
  have hmoved : ([poolViaState, authViaState, extractAppStateAny, dropAuthImport] ++
      dropAuthParam :: fixHandlers.rules.drop 8).Perm
        (dropAuthParam :: ([poolViaState, authViaState, extractAppStateAny, dropAuthImport] ++
          fixHandlers.rules.drop 8)) :=
    List.perm_middle
  exact hmoved.append_left [dropRawPoolImports, importAppState, extractAppState]

namespace Migration

/-! The conventions between the rules in that order, each named for what has been done. -/

def poolRoutedFirst : Convention :=
  { poolExtracted with poolOnce := shared.poolOnce, poolTwice := shared.poolTwice }

def authRoutedFirst : Convention := { poolRoutedFirst with auth := shared.auth }

variable (fs : List Handler)

theorem poolViaState_first : poolViaState.apply (poolExtracted.file fs) = poolRoutedFirst.file fs :=
  Form.poolDeref.apply_file rfl rfl rfl Pattern.begins_lit (by decide)
    (by decide) (by decide) rfl

theorem authViaState_first :
    authViaState.apply (poolRoutedFirst.file fs) = authRoutedFirst.file fs :=
  authViaState_apply fs (by decide) rfl rfl

theorem extractAppStateAny_first :
    extractAppStateAny.apply (authRoutedFirst.file fs) = authRoutedFirst.file fs :=
  Form.poolStateAny.apply_file_quiet rfl Pattern.begins_lit (by decide) (by decide) fs

theorem dropAuthImport_first (hused : fs.any Handler.usesAuth = true) :
    dropAuthImport.apply (authRoutedFirst.file fs) = authRoutedFirst.file fs := by
  have hliteral : Form.authLiteral.pattern.occurs none (authRoutedFirst.file fs) = true := by
    obtain ⟨front, back, hfile⟩ := authRoutedFirst.params_infix hused
    have hparams : authRoutedFirst.params true =
        Text.spell "\n    State(state): State<AppState>,\n    State(auth): State<Arc<" ++
          (Text.spell "Auth" ++ (Text.spell ">>,\n) " ++ ['\x7b']) ++ newline) := by
      decide
    refine (Pattern.occurs_iff _ _ _).mpr
      ⟨front ++ Text.spell "\n    State(state): State<AppState>,\n    State(auth): State<Arc<",
        Text.spell "Auth" ++ (Text.spell ">>,\n) " ++ ['\x7b']), newline ++ back, ?_, ?_⟩
    · rw [← hfile, hparams]
      simp only [List.append_assoc]
    · refine Pattern.reads_lit.mpr ⟨_, rfl, Pattern.reads_seq.mpr
        ⟨Text.spell ">>,\n) ", ['\x7b'], rfl, ?_, Pattern.reads_char.mpr ⟨'\x7b', rfl, by decide⟩⟩⟩
      exact Pattern.reads_many.mpr
        ⟨Nat.zero_le _, List.all_eq_true.mp (by decide)⟩
  refine Rule.apply_of_guard_false ?_
  rw [dropAuthImport_guard, hliteral, Bool.not_true, Bool.and_false, Bool.and_false]

theorem dropAuthParam_last :
    dropAuthParam.apply (authRoutedFirst.file fs) = authRouted.file fs :=
  Form.authState.apply_file rfl rfl rfl Pattern.begins_lit (by decide)
    (by decide) (by decide) rfl

theorem imports_last : ∀ rule ∈ fixHandlers.rules.drop 8,
    rule.apply (authRouted.file fs) = authRouted.file fs :=
  imports_unneeded (not_within_file (by decide) (by decide) (by decide) fs)
    (not_within_file (by decide) (by decide) (by decide) fs)
    (not_within_file (by decide) (by decide) (by decide) fs)

end Migration

/-- In that order, the rules leave the import of auth in every file that uses auth. -/
theorem fixImportsFirst_keeps_import (handlers : List Handler)
    (hused : handlers.any Handler.usesAuth = true) :
    (fixImportsFirst.apply (separate.file handlers)).content =
      shared.imports ++ separate.authImport ++ shared.rest handlers := by
  have hrules : fixImportsFirst.rules =
      [dropRawPoolImports, importAppState, extractAppState, poolViaState, authViaState,
        extractAppStateAny, dropAuthImport, dropAuthParam] ++ fixHandlers.rules.drop 8 :=
    rfl
  rw [RuleSet.apply_content, hrules, RuleSet.throughAll_append]
  simp only [RuleSet.throughAll, List.foldl_cons, List.foldl_nil,
    Migration.dropRawPoolImports_file, Migration.importAppState_file,
    Migration.extractAppState_file, Migration.poolViaState_first, Migration.authViaState_first,
    Migration.extractAppStateAny_first, Migration.dropAuthImport_first handlers hused,
    Migration.dropAuthParam_last]
  refine (RuleSet.throughAll_of_quiet (Migration.imports_last handlers)).trans ?_
  exact Migration.authRouted.file_eq_of_used hused

theorem not_fixHandlers_orderless : ¬ fixHandlers.Orderless := by
  intro h
  have hsame := h fixImportsFirst fixImportsFirst_perm (separate.file [loginHandler])
  rw [fixImportsFirst_keeps_import [loginHandler] rfl, fixHandlers_file [loginHandler]] at hsame
  have hlength := congrArg List.length hsame
  rw [Convention.file_eq, List.length_append, List.length_append, List.length_append] at hlength
  have himport : 0 < separate.authImport.length := by decide
  omega

def Statement.usesPool : Statement → Bool
  | pool _ _ => true
  | auth _ => false
  | plain _ => false

def Handler.usesPool (handler : Handler) : Bool := handler.body.any Statement.usesPool

theorem Convention.file_with_pool (convention : Convention) (once twice : Text)
    {handlers : List Handler} (h : handlers.any Handler.usesPool = false) :
    Convention.file { convention with poolOnce := once, poolTwice := twice } handlers =
      convention.file handlers := by
  have hstatements {body : List Statement} (hbody : body.any Statement.usesPool = false) :
      body.flatMap (Convention.statement { convention with poolOnce := once, poolTwice := twice }) =
        body.flatMap convention.statement := by
    induction body with
    | nil => rfl
    | cons s body ih =>
      rw [List.any_cons, Bool.or_eq_false_iff] at hbody
      rw [List.flatMap_cons, List.flatMap_cons, ih hbody.2]
      cases s with
      | pool function twice => cases hbody.1
      | auth function => rfl
      | plain function => rfl
  have hhandlers : handlers.flatMap
      (Convention.handler { convention with poolOnce := once, poolTwice := twice }) =
        handlers.flatMap convention.handler := by
    induction handlers with
    | nil => rfl
    | cons f handlers ih =>
      rw [List.any_cons, Bool.or_eq_false_iff] at h
      rw [List.flatMap_cons, List.flatMap_cons, ih h.2]
      simp only [Convention.handler, hstatements h.1]
  exact congrArg (_ ++ ·) hhandlers

def revertImportsFirst : RuleSet :=
  .ofRules "revert-handlers"
    [dropAppStateImport, revertExtensionGrouped, revertExtension, poolDirect, importPgPool,
      extractPoolExtension, injectAuthExtension, authDirect, importArc, authIntoGroup,
      authIntoSingle, importAuth]

theorem revertImportsFirst_perm : revertImportsFirst.rules.Perm revertHandlers.rules := by
  have himport : (importPgPool :: ([extractPoolExtension, injectAuthExtension, authDirect] ++
      revertHandlers.rules.drop 8)).Perm
        ([extractPoolExtension, injectAuthExtension, authDirect] ++
          importPgPool :: revertHandlers.rules.drop 8) :=
    List.perm_middle.symm
  have hdirect : (poolDirect :: ([extractPoolExtension, injectAuthExtension] ++
      authDirect :: importPgPool :: revertHandlers.rules.drop 8)).Perm
        ([extractPoolExtension, injectAuthExtension] ++
          poolDirect :: authDirect :: importPgPool :: revertHandlers.rules.drop 8) :=
    List.perm_middle.symm
  exact ((himport.cons poolDirect).trans hdirect).append_left
    [dropAppStateImport, revertExtensionGrouped, revertExtension]

namespace Restoration

variable (fs : List Handler)

theorem poolDirect_first (h : fs.any Handler.usesPool = false) :
    poolDirect.apply (extensionImported.file fs) = extensionImported.file fs :=
  (Form.statePool.apply_file rfl rfl rfl Pattern.begins_lit (by decide)
    (by decide) (by decide) rfl).trans
      (extensionImported.file_with_pool extension.poolOnce extension.poolTwice h)

theorem importPgPool_first :
    importPgPool.apply (extensionImported.file fs) = extensionImported.file fs := by
  have hdirect : Text.within "&*pool".toList (extensionImported.file fs) = false :=
    not_within_file (by decide) (by decide) (by decide) fs
  have hparam : Text.within "Arc<PgPool>".toList (extensionImported.file fs) = false :=
    not_within_file (by decide) (by decide) (by decide) fs
  refine Rule.apply_of_guard_false ?_
  change Guard.holds (.all (.any [.contains "&*pool".toList, .contains "Arc<PgPool>".toList] :: _))
    _ = false
  simp only [Guard.holds, Guard.allHold, Guard.anyHolds, hdirect, hparam, Bool.false_or,
    Bool.false_and]

theorem authDirect_last (h : fs.any Handler.usesPool = false) :
    authDirect.apply (authInjected.file fs) = authDirected.file fs := by
  have hpool : poolDirected.file fs = authInjected.file fs :=
    authInjected.file_with_pool extension.poolOnce extension.poolTwice h
  rw [← hpool]
  exact authDirect_file fs

theorem imports_last : ∀ rule ∈ revertHandlers.rules.drop 8,
    rule.apply (authDirected.file fs) = authDirected.file fs := by
  intro rule hr
  simp only [revertHandlers, RuleSet.ofRules, List.drop_succ_cons, List.drop_zero, List.mem_cons,
    List.not_mem_nil, or_false] at hr
  rcases hr with rfl | rfl | rfl | rfl
  · exact Form.poolImportLine.apply_file_quiet rfl Pattern.begins_lit (by decide) (by decide) fs
  · exact Form.authOpening.apply_file_quiet rfl Pattern.begins_lit (by decide) (by decide) fs
  · exact Form.authName.apply_file_quiet rfl Pattern.begins_lit (by decide) (by decide) fs
  · exact Form.arcImportLine.apply_file_quiet rfl Pattern.begins_lit (by decide) (by decide) fs

end Restoration

/-- In that order, the rules import neither the pool nor its reference count into files that use the
pool in no call, though each of its handlers has it as a parameter. -/
theorem revertImportsFirst_lacks_imports (handlers : List Handler) (hne : handlers ≠ [])
    (hpool : handlers.any Handler.usesPool = false) :
    (revertImportsFirst.apply (shared.file handlers)).content =
      Restoration.extensionImported.imports
        ++ Convention.rest { extension with authImport := [] } handlers := by
  have hrules : revertImportsFirst.rules =
      [dropAppStateImport, revertExtensionGrouped, revertExtension, poolDirect, importPgPool,
        extractPoolExtension, injectAuthExtension, authDirect] ++ revertHandlers.rules.drop 8 :=
    rfl
  rw [RuleSet.apply_content, hrules, RuleSet.throughAll_append]
  simp only [RuleSet.throughAll, List.foldl_cons, List.foldl_nil,
    Restoration.dropAppStateImport_file, Restoration.revertExtensionGrouped_file handlers hne,
    Restoration.revertExtension_file, Restoration.poolDirect_first handlers hpool,
    Restoration.importPgPool_first, Restoration.extractPoolExtension_file,
    Restoration.injectAuthExtension_file, Restoration.authDirect_last handlers hpool]
  refine (RuleSet.throughAll_of_quiet (Restoration.imports_last handlers)).trans ?_
  exact Convention.file_eq _ handlers

def logoutHandler : Handler where
  name := ⟨Text.spell "logout", by decide, List.all_eq_true.mp (by decide)⟩
  body := [.auth ⟨Text.spell "forget", by decide, List.all_eq_true.mp (by decide)⟩]

theorem not_revertHandlers_orderless : ¬ revertHandlers.Orderless := by
  intro h
  have hsame := h revertImportsFirst revertImportsFirst_perm (shared.file [logoutHandler])
  rw [revertImportsFirst_lacks_imports [logoutHandler] (by simp) rfl,
    revertHandlers_file [logoutHandler] (by simp)] at hsame
  have hlength := congrArg List.length hsame
  have hused : [logoutHandler].any Handler.usesAuth = true := rfl
  rw [extension.file_eq_of_used hused] at hlength
  simp only [List.length_append] at hlength
  have hfewer : Restoration.extensionImported.imports.length < extension.imports.length := by decide
  omega

end Catalog

end Recast
