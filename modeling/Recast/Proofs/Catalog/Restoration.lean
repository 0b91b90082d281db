import Recast.Proofs.Catalog.HandlerText

/-! The rules for separate parameters on files that are written with the shared state: they restore a
pool parameter in every handler, an auth parameter in the handlers that use auth, and the imports of
both. The auth parameter is put into whole handlers, so the brace that closes a handler has to be
found. -/

namespace Recast.Catalog

def signatureEnd : Text := Text.spell ") "

def blockStart : Text := Text.spell "\x7b\n"

def blockEnd : Text := Text.spell "\x7d"

namespace Convention

variable (convention : Convention)

def signatureRest (used : Bool) : Text :=
  newline ++ convention.poolParam ++ (if used then convention.authParam else []) ++ signatureEnd

def signature (h : Handler) : Text :=
  header ++ (h.name.called ++ convention.signatureRest h.usesAuth)

def block (h : Handler) : Text :=
  blockStart ++ h.body.flatMap convention.statement ++ blockEnd

def item (h : Handler) : Text := convention.signature h ++ convention.block h

theorem handler_eq_item (h : Handler) : convention.handler h = convention.item h ++ newline := by
  have hstart : bodyStart = signatureEnd ++ blockStart := rfl
  have hend : bodyEnd = blockEnd ++ newline := rfl
  simp only [handler, item, signature, signatureRest, block, Identifier.called, hstart, hend,
    List.append_assoc]

end Convention

theorem braceless_called (f : Identifier) : braceless f.called = true := by
  refine List.all_eq_true.mpr fun c hc => ?_
  rcases List.mem_append.mp hc with hname | hparen
  · have hlower := f.lower c hname
    have hopen : c ≠ '\x7b' := by
      rintro rfl
      exact absurd hlower (by decide)
    have hclose : c ≠ '\x7d' := by
      rintro rfl
      exact absurd hlower (by decide)
    simp [hopen, hclose]
  · obtain rfl : c = '(' := by simpa [paren, Text.spell] using hparen
    decide

theorem closing?_braceless {plain : Text} (h : braceless plain = true) (tail : Text)
    (depth pos : Nat) :
    Matcher.closing? depth pos (plain ++ tail) =
      Matcher.closing? depth (pos + plain.length) tail :=
  Matcher.closing?_append (ne_brace_of_braceless h) tail depth pos

namespace Convention

/-- The spelling of handlers has braces around bodies only. -/
def unbraced (convention : Convention) : Bool :=
  [false, true].all fun b =>
    braceless (convention.signatureRest b) && braceless (convention.argument b)
      && braceless convention.auth

variable {convention : Convention} (h : convention.unbraced = true)

include h

theorem braceless_pieces (b : Bool) :
    braceless (convention.signatureRest b) = true ∧ braceless (convention.argument b) = true ∧
      braceless convention.auth = true := by
  have hall := List.all_eq_true.mp h b (by cases b <;> simp)
  simpa [and_assoc] using hall

theorem braceless_statement (s : Statement) : braceless (convention.statement s) = true := by
  have hindent : braceless indent = true := by decide
  have hfinish : braceless finish = true := by decide
  cases s with
  | pool function twice =>
    have hcall : convention.statement (.pool function twice) =
        indent ++ (function.called ++ convention.argument twice) := by
      simp only [statement, argument, Identifier.called, List.append_assoc]
    obtain ⟨_, hargument, _⟩ := braceless_pieces h twice
    rw [hcall, braceless_append, braceless_append, hindent, braceless_called, hargument]
    rfl
  | auth function =>
    have hcall : convention.statement (.auth function) =
        indent ++ (convention.auth ++ (function.called ++ finish)) := by
      simp only [statement, Identifier.called, List.append_assoc]
    obtain ⟨_, _, hauth⟩ := braceless_pieces h true
    rw [hcall, braceless_append, braceless_append, braceless_append, hindent, hauth,
      braceless_called, hfinish]
    rfl
  | plain function =>
    have hcall : convention.statement (.plain function) =
        indent ++ (function.called ++ finish) := by
      simp only [statement, Identifier.called, List.append_assoc]
    rw [hcall, braceless_append, braceless_append, hindent, braceless_called, hfinish]
    rfl

theorem braceless_statements (body : List Statement) :
    braceless (body.flatMap convention.statement) = true := by
  induction body with
  | nil => rfl
  | cons s body ih =>
    rw [List.flatMap_cons, braceless_append, braceless_statement h, ih]
    rfl

theorem braceless_signature (f : Handler) : braceless (convention.signature f) = true := by
  have hheader : braceless header = true := by decide
  obtain ⟨hrest, _⟩ := braceless_pieces h f.usesAuth
  rw [signature, braceless_append, braceless_append, hheader, braceless_called, hrest]
  rfl

theorem closing?_item (f : Handler) :
    Matcher.closing? 0 0 (convention.item f) = some (convention.item f).length := by
  have hblock : convention.block f =
      '\x7b' :: ((newline ++ f.body.flatMap convention.statement) ++ ['\x7d']) := by
    have hstart : blockStart = '\x7b' :: newline := rfl
    rw [block, hstart]
    simp only [List.cons_append, List.append_assoc]
    rfl
  have hinside : braceless (newline ++ f.body.flatMap convention.statement) = true := by
    rw [braceless_append, braceless_statements h]
    rfl
  have hstop (pos : Nat) : Matcher.closing? 1 pos ['\x7d'] = some (pos + 1) := rfl
  rw [item, closing?_braceless (braceless_signature h f), hblock, Matcher.closing?, if_pos rfl,
    closing?_braceless hinside, hstop]
  simp only [List.length_append, List.length_cons, List.length_nil]
  congr 1
  omega

end Convention

theorem Convention.item_eq (convention : Convention) (f : Handler) :
    convention.item f =
      header ++ (f.name.chars ++ '(' :: (convention.signatureRest f.usesAuth
        ++ convention.block f)) := by
  simp only [item, signature, called_eq, List.append_assoc, List.cons_append, List.nil_append]

/-- The letters behind the start of a header do not reach beyond the name of the handler. -/
theorem length_le_of_word {name chars rest more : Text} (hword : ∀ c ∈ name, Text.isWord c = true)
    (heq : name ++ rest = chars ++ '(' :: more) : name.length ≤ chars.length := by
  rcases List.append_eq_append_iff.mp heq with ⟨gap, hgap, _⟩ | ⟨gap, hgap, htail⟩
  · rw [hgap, List.length_append]
    exact Nat.le_add_right _ _
  · cases gap with
    | nil => simp [hgap]
    | cons c gap =>
      obtain ⟨rfl, _⟩ := List.cons.inj htail
      exact absurd (hword '(' (by simp [hgap])) (by decide)

theorem width?_handlerHeader (convention : Convention) (f : Handler) (prev : Option Char)
    (tail : Text) :
    ∃ n, Form.handlerHeader.pattern.width? prev (convention.item f ++ tail) = some n ∧
      n ≤ (convention.item f).length := by
  rw [convention.item_eq f, List.append_assoc, List.append_assoc, List.cons_append]
  generalize convention.signatureRest f.usesAuth ++ convention.block f = rest
  have hpositive : 1 ≤ f.name.chars.length := List.length_pos_iff.mpr f.name.nonempty
  have hword : ∀ c ∈ f.name.chars, Text.isWord c = true := fun c hc =>
    isWord_of_isNameChar (f.name.lower c hc)
  have hreads (rest : Text) :
      Form.handlerHeader.pattern.Reads prev (header ++ f.name.chars) rest :=
    Pattern.reads_lit.mpr
      ⟨f.name.chars, rfl, Pattern.reads_many.mpr ⟨hpositive, hword⟩⟩
  obtain ⟨n, hn⟩ := Option.isSome_iff_exists.mp
    (Pattern.width?_isSome_iff.mpr ⟨_, _, (List.append_assoc header _ _).symm, hreads _⟩)
  refine ⟨n, hn, ?_⟩
  obtain ⟨name, htake, hname⟩ := Pattern.reads_lit.mp (Pattern.reads_of_width? hn)
  obtain ⟨_, hnameWord⟩ := Pattern.reads_many.mp hname
  have hlength := congrArg List.length htake
  rw [List.length_take, Nat.min_eq_left (Pattern.width?_le hn), List.length_append] at hlength
  have hsplit := List.take_append_drop n (header ++ (f.name.chars ++ '(' :: (rest ++ tail)))
  rw [htake, List.append_assoc] at hsplit
  have hshort := length_le_of_word hnameWord (List.append_cancel_left hsplit)
  have hheader : (Text.spell "pub async fn ").length = header.length := rfl
  simp only [List.length_append]
  omega

theorem splitBefore?_of_quiet {needle before : Text} {prev : Option Char}
    (h : (Pattern.exactly needle).Quiet prev before) (after : Text) :
    Text.splitBefore? needle (before ++ (needle ++ after)) = some (before, needle ++ after) := by
  induction before generalizing prev with
  | nil =>
    rw [List.nil_append]
    have hlead : needle.isPrefixOf (needle ++ after) = true :=
      List.isPrefixOf_iff_prefix.mpr (List.prefix_append _ _)
    cases htext : needle ++ after with
    | nil =>
      obtain ⟨rfl, rfl⟩ := List.append_eq_nil_iff.mp htext
      rfl
    | cons c rest =>
      rw [htext] at hlead
      rw [Text.splitBefore?, if_pos hlead]
  | cons c before ih =>
    have hno : ¬ needle.isPrefixOf (c :: (before ++ (needle ++ after))) = true := by
      intro hlead
      obtain ⟨more, hmore⟩ := List.isPrefixOf_iff_prefix.mp hlead
      exact Pattern.width?_eq_none_iff_reads.mp (h.width?_eq_none (needle ++ after)) needle more
        hmore.symm (Pattern.reads_exactly.mpr rfl)
    rw [List.cons_append, Text.splitBefore?, if_neg hno, ih h.tail]
    rfl

theorem quiet_named {pattern : Pattern} {fixed rest : Text} (hb : pattern.Begins fixed)
    (hn : breaksName fixed = true) (hheader : pattern.quietIn (some '\n') header = true)
    (hrest : pattern.quietIn (some '(') rest = true) (f : Identifier) :
    pattern.Quiet (some '\n') (header ++ (f.called ++ rest)) := by
  refine (Pattern.quiet_of_quietIn hheader).append ((quiet_called hb hn _ f).append ?_)
  rw [lastFrom_called]
  exact Pattern.quiet_of_quietIn hrest

theorem not_within_of_quiet {fixed text : Text} {prev : Option Char}
    (hc : (Pattern.exactly fixed).consumes = true)
    (h : (Pattern.exactly fixed).Quiet prev text) : fixed.within text = false := by
  have hend := h.occurs_append []
  rw [List.append_nil, Pattern.occurs_exactly] at hend
  rw [hend]
  simp [Pattern.occurs, Pattern.width?, Pattern.ends_nil_of_consumes hc]

namespace Restoration

/-! The conventions between the rules, each named for what has been done. -/

def appStateForgotten : Convention :=
  { shared with imports := Text.spell "use axum::\x7bextract::State, Json\x7d;\n" }

def extensionImported : Convention :=
  { shared with imports := Text.spell "use axum::\x7bextract::State, Json, Extension\x7d;\n" }

def poolExtracted : Convention := { extensionImported with poolParam := extension.poolParam }

def authInjected : Convention := { poolExtracted with authParam := extension.authParam }

def poolDirected : Convention :=
  { authInjected with poolOnce := extension.poolOnce, poolTwice := extension.poolTwice }

def authDirected : Convention := { poolDirected with auth := extension.auth }

def poolImported : Convention :=
  { authDirected with
    imports :=
      (Text.spell "use axum::\x7bextract::State, Json, Extension\x7d;\n"
        ++ Text.spell "use sqlx::PgPool;\n") }

def arcImported : Convention := { authDirected with imports := extension.imports }

def framework : Text := Text.spell "use axum::\x7b"

def entries : Text := Text.spell "extract::State, Json\x7d"

def semicolon : Text := Text.spell ";\n"

theorem splitBefore?_item (f : Handler) :
    Text.splitBefore? ['\x7b'] (poolExtracted.item f) =
      some (poolExtracted.signature f, poolExtracted.block f) := by
  have hrest : ∀ used, (Pattern.exactly ['\x7b']).quietIn (some '(')
      (poolExtracted.signatureRest used) = true := by
    decide
  have hquiet : (Pattern.exactly ['\x7b']).Quiet (some '\n') (poolExtracted.signature f) :=
    quiet_named Pattern.begins_lit (by decide) (by decide) (hrest f.usesAuth) f.name
  exact splitBefore?_of_quiet hquiet _

theorem auth_spelled : "state.auth.".toList = poolExtracted.auth := by
  rw [String.toList_ofList]
  rfl

/-- The body of a handler reaches auth through the shared state if it calls auth. -/
theorem within_block (f : Handler) :
    Text.within "state.auth.".toList (poolExtracted.block f) = f.usesAuth := by
  rw [auth_spelled]
  cases hused : f.usesAuth with
  | true =>
    rw [Text.within_iff_isInfix]
    exact (poolExtracted.auth_infix_statements hused).trans (List.infix_append _ _ _)
  | false =>
    have hpieces : Convention.quiet { poolExtracted with auth := [] }
        (.exactly poolExtracted.auth) = true := by
      decide
    have hstatements := (pieces_of_quiet hpieces
      (quiet_called Pattern.begins_lit (by decide))).statements piecewise_quiet f.body
    rw [poolExtracted.statements_with_auth [] hused] at hstatements
    have hstart : (Pattern.exactly poolExtracted.auth).Quiet (some ' ') blockStart :=
      Pattern.quiet_of_quietIn (by decide)
    have hend : (Pattern.exactly poolExtracted.auth).Quiet (some '\n') blockEnd :=
      Pattern.quiet_of_quietIn (by decide)
    refine not_within_of_quiet (by decide) ((hstart.append hstatements.2).append ?_)
    rw [Text.lastFrom_append]
    exact lastFrom_statements poolExtracted f.body ▸ hend

theorem splitOnce?_signature {f : Handler} (hused : f.usesAuth = true) :
    Text.splitOnce? poolParam (poolExtracted.signature f) =
      some (header ++ (f.name.called ++ Text.spell "\n    "), Text.spell ",\n) ") := by
  have hspelled : poolParam = Text.spell "Extension(pool): Extension<Arc<PgPool>>" :=
    (Text.spell_eq _).symm
  rw [hspelled]
  generalize hneedle : Text.spell "Extension(pool): Extension<Arc<PgPool>>" = needle
  have hrest : poolExtracted.signatureRest true =
      Text.spell "\n    " ++ (needle ++ Text.spell ",\n) ") := by
    subst hneedle
    decide
  have hsignature : poolExtracted.signature f =
      (header ++ (f.name.called ++ Text.spell "\n    ")) ++ (needle ++ Text.spell ",\n) ") := by
    rw [Convention.signature, hused, hrest]
    simp only [List.append_assoc]
  have hquiet : (Pattern.exactly needle).Quiet (some '\n')
      (header ++ (f.name.called ++ Text.spell "\n    ")) := by
    subst hneedle
    exact quiet_named Pattern.begins_lit (by decide) (by decide) (by decide) f.name
  rw [Text.splitOnce?, hsignature, splitBefore?_of_quiet hquiet, Option.map_some, List.drop_left]

/-- A handler that uses auth gets the parameter for it, and any other handler stays as it is. -/
theorem injectAuth_item (f : Handler) :
    injectAuth (poolExtracted.item f) = authInjected.item f := by
  rw [injectAuth, splitBefore?_item, Option.getD_some]
  simp only [within_block]
  cases hused : f.usesAuth with
  | false =>
    rw [Bool.not_false, Bool.true_or, if_pos rfl]
    simp only [Convention.item, Convention.signature, Convention.signatureRest, hused]
    rfl
  | true =>
    have hlacks : Text.within "Extension(auth)".toList (poolExtracted.signature f) = false := by
      have hspelled : "Extension(auth)".toList = Text.spell "Extension(auth)" :=
        (Text.spell_eq _).symm
      rw [hspelled]
      refine not_within_of_quiet (by decide) (quiet_named Pattern.begins_lit (by decide)
        (by decide) ?_ f.name)
      rw [hused]
      decide
    have hpool : poolParam = Text.spell "Extension(pool): Extension<Arc<PgPool>>" :=
      (Text.spell_eq _).symm
    have hauth : authParam = Text.spell "Extension(auth): Extension<Arc<Auth>>" :=
      (Text.spell_eq _).symm
    have hseparator : ",\n    ".toList = Text.spell ",\n    " := (Text.spell_eq _).symm
    have hrest : authInjected.signatureRest true =
        Text.spell "\n    " ++ (poolParam ++ (",\n    ".toList ++ (authParam
          ++ Text.spell ",\n) "))) := by
      rw [hpool, hauth, hseparator]
      decide
    have hitem : authInjected.item f = header ++ (f.name.called ++ authInjected.signatureRest true)
        ++ poolExtracted.block f := by
      rw [Convention.item, Convention.signature, hused]
      rfl
    rw [hlacks, splitOnce?_signature hused, hitem, hrest]
    simp only [Bool.not_true, Bool.or_false, Bool.false_eq_true, if_false, List.append_assoc]

/-- Replacing all handlers turns files of one convention into files of the other. -/
theorem passesItems_handlers (fs : List Handler) :
    Form.handlerHeader.pattern.PassesItems injectAuth (some '\n')
      (fs.flatMap poolExtracted.handler) (fs.flatMap authInjected.handler) := by
  have hunbraced : poolExtracted.unbraced = true := by decide
  have hnewline : Form.handlerHeader.pattern.Quiet (some '\x7d') newline :=
    Pattern.quiet_of_quietIn (by decide)
  induction fs with
  | nil => exact fun _ => rfl
  | cons f fs ih =>
    have hitem : Form.handlerHeader.pattern.PassesItems injectAuth (some '\n')
        (poolExtracted.item f) (authInjected.item f) := by
      rw [← injectAuth_item f]
      exact .of_closing (Convention.closing?_item hunbraced f)
        (width?_handlerHeader poolExtracted f _)
    have hlast : Text.lastFrom (some '\n') (poolExtracted.item f) = some '\x7d' := by
      rw [Convention.item, Convention.block, ← List.append_assoc, Text.lastFrom_append]
      rfl
    rw [List.flatMap_cons, List.flatMap_cons]
    refine .append ?_ (lastFrom_handler _ poolExtracted f ▸ ih)
    rw [Convention.handler_eq_item, Convention.handler_eq_item]
    exact hitem.append (hlast ▸ .of_quiet hnewline)

variable (fs : List Handler)

theorem dropAppStateImport_file :
    dropAppStateImport.apply (shared.file fs) = appStateForgotten.file fs :=
  Form.appStateLine.apply_file rfl rfl rfl Pattern.begins_lit (by decide)
    (by decide) (by decide) rfl

/-- The extension is added to the group that the first line imports from the framework. -/
theorem revertExtensionGrouped_file (hne : fs ≠ []) :
    revertExtensionGrouped.apply (appStateForgotten.file fs) = extensionImported.file fs := by
  have hlacks : Text.within "Extension".toList (appStateForgotten.file fs) = false :=
    not_within_file (by decide) (by decide) (by decide) fs
  have hstate : Text.within "State(state)".toList (appStateForgotten.file fs) = true := by
    refine (Text.within_iff_isInfix _ _).mpr
      (List.IsInfix.trans ?_ (appStateForgotten.poolParam_infix hne))
    exact (Text.within_iff_isInfix _ _).mp (by decide)
  have hg : revertExtensionGrouped.guard.holds (appStateForgotten.file fs) = true := by
    change Guard.holds (.all [.lacks "Extension".toList, .contains "State(state)".toList]) _ = true
    simp only [Guard.holds, Guard.allHold, hlacks, hstate]
    rfl
  have hfile : appStateForgotten.file fs =
      framework ++ (entries ++ (semicolon ++ shared.rest fs)) := by
    have himports : appStateForgotten.imports = framework ++ (entries ++ semicolon) := by
      decide
    have hrest : appStateForgotten.rest fs = shared.rest fs :=
      Convention.rest_with_imports shared _ fs
    rw [Convention.file_eq, himports, hrest]
    simp only [List.append_assoc]
  have hwidth : Form.frameworkOpening.pattern.widthIn? none framework =
      some (some framework.length) := by
    decide
  have hfirst : Form.frameworkOpening.pattern.First none (appStateForgotten.file fs) [] framework
      (entries ++ (semicolon ++ shared.rest fs)) :=
    ⟨hfile, Pattern.width?_of_widthIn? hwidth _, by simp⟩
  have hgroup : Matcher.closing? 0 0 (framework ++ entries) =
      some (framework ++ entries).length := by
    decide
  have hclose := Matcher.closing?_of_append (semicolon ++ shared.rest fs) hgroup
  rw [List.append_assoc] at hclose
  have himports : appendExtension (framework ++ entries) ++ semicolon =
      extensionImported.imports := by
    decide
  have hrest : extensionImported.rest fs = shared.rest fs :=
    Convention.rest_with_imports shared _ fs
  rw [Form.frameworkOpening.apply_firstItem rfl rfl hg hfirst hclose, ← List.append_assoc framework,
    List.take_left, List.drop_left, Convention.file_eq, ← himports, hrest,
    Replacement.acts_computed, List.nil_append, List.append_assoc]

theorem revertExtension_file :
    revertExtension.apply (extensionImported.file fs) = extensionImported.file fs := by
  have hknown : Text.within "Extension".toList (extensionImported.file fs) = true := by
    rw [Text.within_iff_isInfix, Convention.file_eq]
    refine List.IsInfix.trans ?_ (List.prefix_append _ _).isInfix
    exact (Text.within_iff_isInfix _ _).mp (by decide)
  refine Rule.apply_of_guard_false ?_
  change Guard.holds (.all (.lacks "Extension".toList :: _)) _ = false
  rw [Guard.holds, Guard.allHold, Guard.holds, hknown, Bool.not_true, Bool.false_and]

theorem extractPoolExtension_file :
    extractPoolExtension.apply (extensionImported.file fs) = poolExtracted.file fs :=
  Form.sharedState.apply_file rfl rfl rfl Pattern.begins_lit (by decide)
    (by decide) (by decide) rfl

theorem injectAuthExtension_guard (text : Text) :
    injectAuthExtension.guard.holds text = Text.within "state.auth.".toList text :=
  rfl

theorem injectAuthExtension_file :
    injectAuthExtension.apply (poolExtracted.file fs) = authInjected.file fs := by
  by_cases hg : injectAuthExtension.guard.holds (poolExtracted.file fs) = true
  · have hopening : Form.handlerHeader.pattern.Quiet none
        (poolExtracted.opening (fs.any Handler.usesAuth)) := by
      have hall : ∀ used, Form.handlerHeader.pattern.quietIn none (poolExtracted.opening used) =
          true := by
        decide
      exact Pattern.quiet_of_quietIn (hall _)
    have hlined : poolExtracted.lined = true := by decide
    have hfile := Pattern.PassesItems.append (.of_quiet hopening)
      (line_of_lined hlined _ ▸ passesItems_handlers fs)
    rw [Form.handlerHeader.apply_rewriteItems rfl rfl hg]
    exact hfile.rewriteItems
  · have hunused : fs.any Handler.usesAuth = false := by
      rw [injectAuthExtension_guard, auth_spelled] at hg
      refine Bool.eq_false_iff.mpr fun hused => hg ?_
      exact (Text.within_iff_isInfix _ _).mpr (poolExtracted.auth_infix hused)
    rw [Rule.apply_of_guard_false (Bool.eq_false_iff.mpr hg)]
    exact (poolExtracted.file_with_authParam _ hunused).symm

theorem poolDirect_file : poolDirect.apply (authInjected.file fs) = poolDirected.file fs :=
  Form.statePool.apply_file rfl rfl rfl Pattern.begins_lit (by decide)
    (by decide) (by decide) rfl

theorem authDirect_file : authDirect.apply (poolDirected.file fs) = authDirected.file fs :=
  Form.stateAuth.apply_file rfl rfl rfl (Pattern.begins_look Pattern.begins_lit)
    (by decide) (by decide) (by decide) rfl

theorem importPgPool_file (hne : fs ≠ []) :
    importPgPool.apply (authDirected.file fs) = poolImported.file fs := by
  have hpool : Text.within "Arc<PgPool>".toList (authDirected.file fs) = true := by
    refine (Text.within_iff_isInfix _ _).mpr
      (List.IsInfix.trans ?_ (authDirected.poolParam_infix hne))
    exact (Text.within_iff_isInfix _ _).mp (by decide)
  have hlacks : poolImport.within (authDirected.file fs) = false :=
    not_within_file (by decide) (by decide) (by decide) fs
  have hg : importPgPool.guard.holds (authDirected.file fs) = true := by
    change Guard.holds (.all [.any [.contains "&*pool".toList, .contains "Arc<PgPool>".toList],
      .lacks poolImport]) _ = true
    simp only [Guard.holds, Guard.allHold, Guard.anyHolds, hpool, hlacks, Bool.true_or,
      Bool.or_true]
    rfl
  have hline : authDirected.imports = [] ++ authDirected.imports := rfl
  have himports : authDirected.imports ++ (poolImport ++ ['\n']) = poolImported.imports := by
    decide
  have hrest : poolImported.rest fs = authDirected.rest fs :=
    Convention.rest_with_imports authDirected _ fs
  rw [Form.frameworkLine.apply_file_insert rfl rfl hline rfl (by decide +kernel) hg, himports,
    ← hrest, Convention.file_eq]

theorem importArc_file (hne : fs ≠ []) :
    importArc.apply (poolImported.file fs) = arcImported.file fs := by
  have harc : Text.within "Arc<".toList (poolImported.file fs) = true := by
    refine (Text.within_iff_isInfix _ _).mpr
      (List.IsInfix.trans ?_ (poolImported.poolParam_infix hne))
    exact (Text.within_iff_isInfix _ _).mp (by decide)
  have hlacks : arcImport.within (poolImported.file fs) = false :=
    not_within_file (by decide) (by decide) (by decide) fs
  have hg : importArc.guard.holds (poolImported.file fs) = true := by
    change Guard.holds (.all [.contains "Arc<".toList, .lacks arcImport]) _ = true
    simp only [Guard.holds, Guard.allHold, harc, hlacks]
    rfl
  have hline : poolImported.imports = authDirected.imports ++ Text.spell "use sqlx::PgPool;\n" :=
    rfl
  have himports : poolImported.imports ++ (arcImport ++ ['\n']) = arcImported.imports := by
    decide
  have hrest : poolImported.rest fs = arcImported.rest fs :=
    (Convention.rest_with_imports authDirected _ fs).trans
      (Convention.rest_with_imports authDirected _ fs).symm
  rw [Form.poolImportLine.apply_file_insert rfl rfl hline (by decide) (by decide) hg,
    himports, hrest, Convention.file_eq]

theorem authIntoGroup_file : authIntoGroup.apply (arcImported.file fs) = arcImported.file fs :=
  Form.authOpening.apply_file_quiet rfl Pattern.begins_lit (by decide)
    (by decide) fs

theorem authIntoSingle_file : authIntoSingle.apply (arcImported.file fs) = arcImported.file fs :=
  Form.authName.apply_file_quiet rfl Pattern.begins_lit (by decide)
    (by decide) fs

theorem arcImported_eq : arcImported = { extension with authImport := [] } := rfl

theorem within_authType : Text.within "Arc<Auth>".toList (arcImported.file fs) =
    fs.any Handler.usesAuth := by
  cases hused : fs.any Handler.usesAuth with
  | true =>
    refine (Text.within_iff_isInfix _ _).mpr
      (List.IsInfix.trans ?_ (arcImported.authParam_infix hused))
    exact (Text.within_iff_isInfix _ _).mp (by decide)
  | false =>
    rw [← arcImported.file_with_authParam [] hused]
    exact not_within_file (by decide) (by decide) (by decide) fs

/-- The import of auth is added to a file that uses auth; any other file does not need it. -/
theorem importAuth_file : importAuth.apply (arcImported.file fs) = extension.file fs := by
  have hguard (text : Text) : importAuth.guard.holds text =
      (authUnimported.holds text && !Text.within "use crate::auth::".toList text) := by
    change Guard.holds (.all [authUnimported, .lacks "use crate::auth::".toList]) text = _
    simp only [Guard.holds, Guard.allHold, Bool.and_true]
  have hlacks : Text.within "use crate::auth::".toList (arcImported.file fs) = false :=
    not_within_file (by decide) (by decide) (by decide) fs
  have himport : Form.authTypeImport.pattern.occurs none (arcImported.file fs) = false :=
    Form.authTypeImport.not_occurs_file Pattern.begins_lit (by decide) (by decide)
      fs
  cases hused : fs.any Handler.usesAuth with
  | false =>
    have hg : importAuth.guard.holds (arcImported.file fs) = false := by
      rw [hguard, authUnimported_holds, within_authType, hused]
      rfl
    rw [Rule.apply_of_guard_false hg, arcImported_eq]
    exact extension.file_with_authImport [] hused
  | true =>
    have hg : importAuth.guard.holds (arcImported.file fs) = true := by
      rw [hguard, authUnimported_holds, within_authType, hused, himport, hlacks]
      rfl
    have hline : arcImported.imports =
        poolImported.imports ++ Text.spell "use std::sync::Arc;\n" := by
      decide
    have hauth : "use crate::auth::Auth;\n".toList = extension.authImport := by
      rw [String.toList_ofList]
      rfl
    rw [Form.arcImportLine.apply_file_insert rfl rfl hline (by decide) (by decide)
      hg, hauth, extension.file_eq_of_used hused]
    rfl

theorem authUnimported_extension : authUnimported.holds (extension.file fs) = false := by
  rw [authUnimported_holds]
  cases hused : fs.any Handler.usesAuth with
  | false =>
    rw [← extension.file_with_authImport [] hused, ← arcImported_eq, within_authType, hused]
    rfl
  | true =>
    have hwidth : Form.authTypeImport.pattern.widthIn? (some '\n') extension.authImport =
        some (some (Text.spell "use crate::auth::Auth").length) := by
      decide
    have hreads := Pattern.reads_of_width? (Pattern.width?_of_widthIn? hwidth
      (Convention.rest { extension with authImport := [] } fs))
    have himport : Form.authTypeImport.pattern.occurs none (extension.file fs) = true := by
      refine (Pattern.occurs_iff _ _ _).mpr ⟨extension.imports, _, _, ?_, hreads⟩
      rw [List.take_append_drop, ← List.append_assoc]
      exact extension.file_eq_of_used hused
    rw [himport, Bool.not_true, Bool.and_false]

theorem apply_extension :
    ∀ rule ∈ revertHandlers.rules, rule.apply (extension.file fs) = extension.file fs := by
  have hauth := authUnimported_extension fs
  have within_imports {marker : Text} (h : marker.within extension.imports = true) :
      marker.within (extension.file fs) = true := by
    rw [Text.within_iff_isInfix, Convention.file_eq]
    exact ((Text.within_iff_isInfix _ _).mp h).trans (List.prefix_append _ _).isInfix
  have hknown : Text.within "Extension".toList (extension.file fs) = true :=
    within_imports (by decide)
  have hpool : poolImport.within (extension.file fs) = true := within_imports (by decide)
  have harc : arcImport.within (extension.file fs) = true := within_imports (by decide)
  intro rule hr
  simp only [revertHandlers, RuleSet.ofRules, List.mem_cons, List.not_mem_nil, or_false] at hr
  rcases hr with rfl | rfl | rfl | rfl | rfl | rfl | rfl | rfl | rfl | rfl | rfl | rfl
  · exact Form.appStateLine.apply_file_quiet rfl Pattern.begins_lit (by decide)
      (by decide) fs
  · refine Rule.apply_of_guard_false ?_
    change Guard.holds (.all (.lacks "Extension".toList :: _)) _ = false
    rw [Guard.holds, Guard.allHold, Guard.holds, hknown, Bool.not_true, Bool.false_and]
  · refine Rule.apply_of_guard_false ?_
    change Guard.holds (.all (.lacks "Extension".toList :: _)) _ = false
    rw [Guard.holds, Guard.allHold, Guard.holds, hknown, Bool.not_true, Bool.false_and]
  · exact Form.sharedState.apply_file_quiet rfl Pattern.begins_lit (by decide)
      (by decide) fs
  · refine Rule.apply_of_guard_false ?_
    rw [injectAuthExtension_guard]
    exact not_within_file (by decide) (by decide) (by decide) fs
  · exact Form.statePool.apply_file_quiet rfl Pattern.begins_lit (by decide)
      (by decide) fs
  · exact Form.stateAuth.apply_file_quiet rfl (Pattern.begins_look Pattern.begins_lit)
      (by decide) (by decide) fs
  · refine Rule.apply_of_guard_false ?_
    change Guard.holds (.all [.any _, .lacks poolImport]) _ = false
    simp only [Guard.holds, Guard.allHold, hpool, Bool.not_true, Bool.false_and, Bool.and_false]
  · refine Rule.apply_of_guard_false ?_
    change Guard.holds (.all [.contains "Arc<".toList, .lacks arcImport]) _ = false
    simp only [Guard.holds, Guard.allHold, harc, Bool.not_true, Bool.false_and, Bool.and_false]
  · exact Rule.apply_of_guard_false hauth
  · exact Rule.apply_of_guard_false hauth
  · refine Rule.apply_of_guard_false ?_
    change Guard.holds (.all (authUnimported :: _)) _ = false
    rw [Guard.holds, Guard.allHold, hauth, Bool.false_and]

end Restoration

theorem revertHandlers_file (handlers : List Handler) (hne : handlers ≠ []) :
    (revertHandlers.apply (shared.file handlers)).content = extension.file handlers := by
  have hrules : revertHandlers.rules =
      [dropAppStateImport, revertExtensionGrouped, revertExtension, extractPoolExtension,
        injectAuthExtension, poolDirect, authDirect, importPgPool, importArc, authIntoGroup,
        authIntoSingle, importAuth] :=
    rfl
  rw [RuleSet.apply_content, hrules]
  simp only [RuleSet.throughAll, List.foldl_cons, List.foldl_nil,
    Restoration.dropAppStateImport_file, Restoration.revertExtensionGrouped_file handlers hne,
    Restoration.revertExtension_file, Restoration.extractPoolExtension_file,
    Restoration.injectAuthExtension_file, Restoration.poolDirect_file,
    Restoration.authDirect_file, Restoration.importPgPool_file handlers hne,
    Restoration.importArc_file handlers hne, Restoration.authIntoGroup_file,
    Restoration.authIntoSingle_file, Restoration.importAuth_file]

/-- The rules for separate parameters turn every file with the shared state into the file of the same
handlers with extensions, in which they then find nothing more to do. -/
theorem revertHandlers_restores (handlers : List Handler) (hne : handlers ≠ []) :
    (revertHandlers.apply (shared.file handlers)).content = extension.file handlers ∧
      revertHandlers.apply (extension.file handlers) = ⟨extension.file handlers, []⟩ :=
  ⟨revertHandlers_file handlers hne,
    (RuleSet.apply_eq_self_iff _ _).mpr (Restoration.apply_extension handlers)⟩

def loginHandler : Handler where
  name := ⟨Text.spell "login", by decide, List.all_eq_true.mp (by decide)⟩
  body :=
    [.auth ⟨Text.spell "check", by decide, List.all_eq_true.mp (by decide)⟩,
      .pool ⟨Text.spell "query", by decide, List.all_eq_true.mp (by decide)⟩ false]

theorem revertHandlers_restores_login : [loginHandler] ≠ [] ∧
    ((revertHandlers.apply (shared.file [loginHandler])).content = extension.file [loginHandler] ∧
      revertHandlers.apply (extension.file [loginHandler]) = ⟨extension.file [loginHandler], []⟩) :=
  ⟨by simp, revertHandlers_restores [loginHandler] (by simp)⟩

end Recast.Catalog
