import Recast.Proofs.Catalog.FixedAccess
import Recast.Proofs.Catalog.Migration
import Recast.Proofs.Pattern.Beside

/-! The import of the shared state and the parameter that needs it. The rule for the import looks for a
statement that ends its line with a bare line feed; the rules for the parameter look for no line at all.
A text with such a statement comes out with the import: it is put there, and no later rule takes it away
unless it stands within the type of a parameter. A text whose lines all end in a carriage return and a
line feed has no such statement and comes out with the parameter alone. -/

namespace Recast

/-- Every line of a text behind `prev` ends in a carriage return and a line feed. -/
def Text.returned : Option Char → Text → Bool
  | _, [] => true
  | prev, c :: rest => (c != '\n' || prev == some '\r') && returned (some c) rest

namespace Text

variable {prev : Option Char} {first second old new text : Text}

theorem returned_append (prev : Option Char) (first second : Text) :
    returned prev (first ++ second) =
      (returned prev first && returned (lastFrom prev first) second) := by
  induction first generalizing prev with
  | nil => rfl
  | cons c first ih => rw [List.cons_append, returned, returned, ih, lastFrom, Bool.and_assoc]

theorem returned_of_notin (h : '\n' ∉ text) (prev : Option Char) : returned prev text = true := by
  induction text generalizing prev with
  | nil => rfl
  | cons c text ih =>
    obtain ⟨hc, htext⟩ := not_or.mp (mt List.mem_cons.mpr h)
    rw [returned, ih htext, Bool.and_true, Bool.or_eq_true]
    exact .inl (bne_iff_ne.mpr (Ne.symm hc))

/-- A text that goes on without a carriage return before it goes on behind any character. -/
theorem returned_of_prev (hprev : prev ≠ some '\r') (h : returned prev text = true)
    (prev' : Option Char) : returned prev' text = true := by
  cases text with
  | nil => rfl
  | cons c text =>
    rw [returned, Bool.and_eq_true, Bool.or_eq_true, beq_iff_eq] at h
    rw [returned, h.2, Bool.and_true, Bool.or_eq_true]
    exact .inl (h.1.resolve_right hprev)

/-- No line is broken where a piece that does not end in a carriage return is replaced by one without
line breaks. -/
theorem returned_patch {c : Char} (hlast : old.getLast? = some c) (hc : c ≠ '\r') (hnew : '\n' ∉ new)
    (h : returned prev (first ++ (old ++ second)) = true) :
    returned prev (first ++ (new ++ second)) = true := by
  simp only [returned_append, Bool.and_eq_true] at h ⊢
  have hold : old ≠ [] := by
    rintro rfl
    cases hlast
  refine ⟨h.1, returned_of_notin hnew _, returned_of_prev ?_ h.2.2 _⟩
  rw [lastFrom_eq_getLast? hold, hlast]
  exact fun heq => hc (Option.some.inj heq)

end Text

namespace Catalog

open Pattern

namespace Form

variable (form : Form)

section

variable {rule : Rule} {new : Replacement} {text : Text}
  {valid : (Regex.read? form.source).isSome = true}
  (hm : rule.matcher = .regex (.ofText form.source valid))
  (ha : rule.action = .replace new .all) (hn : new.isPlain = true)

include hm ha hn

theorem within_apply {needle : Text}
    (hshut : ∀ {prev found rest}, form.pattern.Reads prev found rest → (exactly needle).Shut found)
    (hin : needle.within text = true) : needle.within (rule.apply text) = true := by
  refine (form.patched_apply hm ha hn).within_kept (fun hfills => ?_) hin
  obtain ⟨_, _, _, hreads⟩ := hfills.placed
  exact hshut hreads

theorem not_within_apply {needle : Text}
    (hshut : ∀ {prev found rest}, form.pattern.Reads prev found rest →
      (exactly needle).Shut (new.acts found))
    (hno : needle.within text = false) : needle.within (rule.apply text) = false := by
  refine (form.patched_apply hm ha hn).not_within (fun hfills => ?_) hno
  obtain ⟨_, _, _, hreads⟩ := hfills.placed
  rw [hfills.fresh]
  exact hshut hreads

theorem returned_apply {c : Char} (hc : c ≠ '\r')
    (hfills : ∀ {prev found rest}, form.pattern.Reads prev found rest →
      found.getLast? = some c ∧ '\n' ∉ new.acts found)
    (h : Text.returned none text = true) : Text.returned none (rule.apply text) = true := by
  refine (form.patched_apply hm ha hn).keeps (fun out => Text.returned none out = true) ?_ h
  rintro first old _ second ⟨⟨_, _, _, hreads⟩, rfl⟩ hold
  obtain ⟨hlast, hbreak⟩ := hfills hreads
  exact Text.returned_patch hlast hc hbreak hold

end

theorem not_occurs_of_returned {text : Text}
    (hreads : ∀ {prev found rest}, form.pattern.Reads prev found rest → EndsLine found)
    (h : Text.returned none text = true) : form.pattern.occurs none text = false := by
  refine Bool.eq_false_iff.mpr fun hyes => ?_
  obtain ⟨before, found, after, rfl, hr⟩ := (occurs_iff _ _ _).mp hyes
  obtain ⟨statement, indent, rfl, hindent⟩ := hreads hr
  have hcut : before ++ ((statement ++ ';' :: (indent ++ ['\n'])) ++ after) =
      (before ++ (statement ++ ';' :: indent)) ++ '\n' :: after := by
    simp
  rw [hcut, Text.returned_append, Text.returned, Bool.and_eq_true, Bool.and_eq_true] at h
  have hlast : Text.lastFrom none (before ++ (statement ++ ';' :: indent)) = some '\r' := by
    simpa using h.2.1
  have hmem : '\r' ∈ ';' :: indent := by
    rw [← List.append_assoc, Text.lastFrom_append, Text.lastFrom_eq_getLast? (by simp)] at hlast
    exact List.mem_of_getLast? hlast
  rcases List.mem_cons.mp hmem with heq | hmem
  · exact absurd heq (by decide)
  · exact absurd (hindent _ hmem) (by decide)

end Form

theorem endsLine_of_rawPoolImports {prev : Option Char} {found rest : Text}
    (h : Form.rawPoolImports.pattern.Reads prev found rest) : EndsLine found := by
  obtain ⟨_, rfl, hmore⟩ := reads_lit.mp h
  obtain ⟨blanks, _, rfl, -, hbreak⟩ := reads_seq.mp hmore
  obtain ⟨_, rfl, hnext⟩ := reads_lit.mp hbreak
  obtain ⟨blanks', _, rfl, -, harc⟩ := reads_seq.mp hnext
  have hstatement : Text.spell "use std::sync::Arc;" = Text.spell "use std::sync::Arc" ++ [';'] := rfl
  rw [hstatement] at harc
  obtain ⟨statement, indent, rfl, hindent⟩ := endsLine_of_fixed _ rfl harc
  exact ⟨Text.spell "use sqlx::PgPool;" ++ (blanks ++ (['\n'] ++ (blanks' ++ statement))), indent,
    by simp, hindent⟩

theorem endsLine_of_authImportLine {prev : Option Char} {found rest : Text}
    (h : Form.authImportLine.pattern.Reads prev found rest) : EndsLine found := by
  have hpattern : Form.authImportLine.pattern =
      lit (Text.spell "use crate::auth::Auth" ++ [';']) Form.lineEnd := rfl
  exact endsLine_of_fixed _ hpattern h

theorem reads_authState {prev : Option Char} {found rest : Text}
    (h : Form.authState.pattern.Reads prev found rest) :
    ∃ blanks blanks', (∀ c ∈ blanks ++ blanks', CharClass.blank.has c = true) ∧
      found = [','] ++ (blanks ++ (Text.spell "State(auth):" ++ (blanks' ++
        (Text.spell "State<Arc<Auth>" ++ ['>'])))) := by
  obtain ⟨_, rfl, hmore⟩ := reads_lit.mp h
  obtain ⟨blanks, _, rfl, hblanks, hparam⟩ := reads_seq.mp hmore
  obtain ⟨blanks', hblanks', rfl⟩ := reads_param hparam
  refine ⟨blanks, blanks', fun c hc => ?_, rfl⟩
  exact (List.mem_append.mp hc).elim (Form.reads_blanks hblanks c) (hblanks' c)

theorem extractAppState_action :
    extractAppState.action =
      .replace (.template (Text.spell "State(state): State<AppState>")) .all := by
  rw [← appStateParam_spelled]
  rfl

section

variable {piece : Text} {c : Char}

/-- The import does not reach into a piece that has no semicolon and ends with a character that is no
part of it. -/
theorem shut_appStateImport (hlast : piece.getLast? = some c) (hc : c ∉ appStateImport)
    (hpiece : ';' ∉ piece) : (exactly appStateImport).Shut piece :=
  shut_of_last (by decide) hlast hpiece hc

/-- The parameter does not reach into a piece that has no closing bracket and ends with a character that
is no part of it. -/
theorem shut_appStateParam (hlast : piece.getLast? = some c) (hc : c ∉ appStateParam)
    (hpiece : '>' ∉ piece) : (exactly appStateParam).Shut piece :=
  shut_of_last (by decide) hlast hpiece hc

end

theorem clears_groupEntry {entry : Text} (h : entry ∈ groupEntries) :
    appStateImport.clears ('\x7b' :: entry) = true := by
  have hall : (groupEntries.all fun entry => appStateImport.clears ('\x7b' :: entry)) = true := by
    decide +kernel
  exact List.all_eq_true.mp hall entry h

/-- The import lies before or behind an import edit, which changes nothing about it. -/
theorem ImportEdit.within_appStateImport {old new first second : Text} (h : ImportEdit old new) :
    appStateImport.within (first ++ (new ++ second)) =
      appStateImport.within (first ++ (old ++ second)) := by
  cases h with
  | @line indent added hindent hadded =>
    have hadded : (exactly appStateImport).Shut added := by
      have hall : (importLines.all fun added =>
          !added.isEmpty && added.clears appStateImport.tail && appStateImport.clears added) = true := by
        decide +kernel
      have hshut := List.all_eq_true.mp hall added hadded
      simp only [Bool.and_eq_true, Bool.not_eq_true', List.isEmpty_eq_false_iff] at hshut
      exact shut_exactly hshut.1.1 hshut.1.2 hshut.2
    have hbreak : '\n' ∉ appStateImport := by decide
    have hold : first ++ ((';' :: (indent ++ ['\n'])) ++ second) =
        (first ++ ';' :: indent) ++ '\n' :: second := by
      simp
    have hnew : first ++ ((';' :: (indent ++ '\n' :: added)) ++ second) =
        (first ++ ';' :: indent) ++ '\n' :: ([] ++ (added ++ second)) := by
      simp
    rw [hold, hnew, Text.within_cut_eq hbreak, Text.within_cut_eq hbreak, hadded.within_beside]
    rfl
  | @entry entry hentry =>
    have hopening : (exactly appStateImport).Shut ['\x7b'] :=
      shut_appStateImport rfl (by decide) (by decide)
    have hentry : (exactly appStateImport).Shut ('\x7b' :: entry) :=
      shut_exactly (List.cons_ne_nil _ _) (Text.clears_of_head_notin (by decide))
        (clears_groupEntry hentry)
    rw [hopening.within_beside, hentry.within_beside]
  | @single name entry hname hentry =>
    -- The name may be the end of the import, so the module before it is the piece that shuts it out.
    have hmodule : (exactly appStateImport).Shut authModule :=
      shut_exactly (by decide) (by decide) (by decide)
    have hspace : ' ' ∉ name := fun hmem => absurd (hname.word _ hmem) (by decide)
    have hname (c : Char) (hc : c ∉ appStateImport.dropLast) (hne : c ≠ ' ') :
        appStateImport.clears (name ++ [c]) = true := by
      refine Text.clears_of_notin (c := ' ') (by decide) ?_ fun d hd => ?_
      · simpa using ⟨hspace, hne.symm⟩
      · rw [List.getLast?_concat] at hd
        obtain rfl := Option.some.inj hd
        exact hc
    have hold : first ++ ((authModule ++ (name ++ [';'])) ++ second) =
        first ++ (authModule ++ ((name ++ [';']) ++ second)) := by
      simp
    have hnew : first ++ ((authModule ++ ('\x7b' :: (entry ++ (name ++ ['\x7d', ';'])))) ++ second) =
        first ++ (authModule ++ (('\x7b' :: entry) ++ ((name ++ ['\x7d']) ++ ([';'] ++ second)))) := by
      simp
    rw [hold, hnew, hmodule.within_beside, hmodule.within_beside,
      Text.within_behind (clears_groupEntry hentry),
      Text.within_behind (hname '\x7d' (by decide) (by decide)), Text.within_behind (by decide),
      Text.within_behind (hname ';' (by decide) (by decide))]
  | @group inner kept trail gap last happended =>
    have hplain {text : Text} (h : ∀ c ∈ text, isLoose c = true) : ';' ∉ text :=
      fun hmem => absurd (h _ hmem) (by decide)
    have hold : (exactly appStateImport).Shut (trail ++ ['\x7d']) := by
      refine shut_appStateImport (c := '\x7d') (by simp) (by decide) ?_
      simpa using hplain happended.loose_trail
    have hnew : (exactly appStateImport).Shut
        (',' :: (gap ++ (extensionName ++ (last ++ ['\x7d'])))) := by
      refine shut_appStateImport (c := '\x7d') (by simp [List.getLast?_cons, List.getLast?_append])
        (by decide) ?_
      have hextension : ';' ∉ extensionName := by decide
      simp [hplain happended.loose_gap, hplain happended.loose_last, hextension]
    rw [hold.within_beside, hnew.within_beside]

/-! The import and the parameter beside what the rules match. -/

section

variable {prev : Option Char} {found rest : Text}

theorem shut_poolState (h : Form.poolState.pattern.Reads prev found rest) :
    (exactly appStateImport).Shut found := by
  have hplain : ';' ∉ found := notin_param (by decide) (by decide) h
  obtain ⟨blanks, -, rfl⟩ := reads_param h
  exact shut_appStateImport (c := '>') (by simp [List.getLast?_append]) (by decide) hplain

theorem shut_authState (h : Form.authState.pattern.Reads prev found rest) :
    (exactly appStateImport).Shut found ∧ (exactly appStateParam).Shut found := by
  obtain ⟨blanks, blanks', hblanks, rfl⟩ := reads_authState h
  have hother {c : Char} (hc : CharClass.blank.has c = false) : c ∉ blanks ∧ c ∉ blanks' := by
    refine not_or.mp fun hmem => ?_
    rw [hblanks c (List.mem_append.mpr hmem)] at hc
    cases hc
  constructor
  · refine shut_appStateImport (c := '>') (by simp [List.getLast?_cons, List.getLast?_append])
      (by decide) ?_
    obtain ⟨hfirst, hsecond⟩ := @hother ';' (by decide)
    simp [hfirst, hsecond, Text.spell]
  · obtain ⟨hfirst, hsecond⟩ := @hother 'S' (by decide)
    have hclears {blanks : Text} (hno : 'S' ∉ blanks) : appStateParam.clears blanks = true :=
      Text.clears_of_head_notin hno
    have hcomma : appStateParam.clears [','] = true := by decide
    have hhead : appStateParam.clears (Text.spell "State(auth):") = true := by decide
    have htype : appStateParam.clears (Text.spell "State<Arc<Auth>" ++ ['>']) = true := by decide
    exact shut_exactly (List.cons_ne_nil _ _) (Text.clears_of_head_notin (by decide))
      (Text.clears_append hcomma (Text.clears_append (hclears hfirst)
        (Text.clears_append hhead (Text.clears_append (hclears hsecond) htype))))

theorem shut_poolDeref_found (h : Form.poolDeref.pattern.Reads prev found rest) :
    (exactly appStateImport).Shut found ∧ (exactly appStateParam).Shut found := by
  have hplain : found.head? = some '&' ∧ 'u' ∉ found ∧ 'S' ∉ found := by
    rcases found_poolDeref h with rfl | rfl <;> decide
  exact ⟨shut_of_head (c := 'u') (by decide) hplain.1 hplain.2.1 (by decide),
    shut_of_head (c := 'S') (by decide) hplain.1 hplain.2.2 (by decide)⟩

theorem last_authAccess (h : Form.authAccess.pattern.Reads prev found rest) :
    found.getLast? = some '.' := by
  obtain ⟨-, rfl | ⟨name, -, rfl⟩⟩ := reads_authAccess.mp h
  · decide
  · rw [List.getLast?_append]
    rfl

theorem shut_authAccess (h : Form.authAccess.pattern.Reads prev found rest) :
    (exactly appStateImport).Shut found ∧ (exactly appStateParam).Shut found := by
  have hplain {c : Char} (hc : isFence c = true) : c ∉ found := fun hmem => by
    rw [not_isFence_of_reads h c hmem] at hc
    cases hc
  exact ⟨shut_appStateImport (last_authAccess h) (by decide) (hplain (by decide)),
    shut_appStateParam (last_authAccess h) (by decide) (hplain (by decide))⟩

theorem reads_routeAuth (h : Form.authAccess.pattern.Reads prev found rest) :
    Form.authAccess.pattern.Reads prev (routeAuth found) rest := by
  obtain ⟨hprev, name, hname, hroute, -⟩ := routeAuth_reads h
  exact reads_authAccess.mpr ⟨hprev, .inr ⟨name, hname, hroute⟩⟩

theorem shut_authImportLine (h : Form.authImportLine.pattern.Reads prev found rest) :
    (exactly appStateImport).Shut found ∧ (exactly appStateParam).Shut found := by
  obtain ⟨more, rfl, hmore⟩ := reads_lit.mp h
  obtain ⟨indent, hindent, rfl⟩ := reads_lineEnd hmore
  have hplain {c : Char} (hc : isIndent c = false) : c ∉ indent := fun hmem => by
    rw [hindent c hmem] at hc
    cases hc
  have hend {c : Char} (hc : isIndent c = false) (hne : c ≠ '\n') : c ∉ indent ++ ['\n'] := by
    simpa [hne] using hplain hc
  constructor
  · have hstatement : (Text.spell "use crate::auth::Auth;").clears appStateImport.tail = true := by
      decide
    have hbegin : appStateImport.clears (Text.spell "use crate::auth::Auth;") = true := by decide
    exact shut_exactly (List.cons_ne_nil _ _) (Text.clears_of_front hstatement _)
      (Text.clears_append hbegin (Text.clears_of_head_notin (hend (by decide) (by decide))))
  · refine shut_appStateParam (c := '\n') (by simp [List.getLast?_append]) (by decide) ?_
    refine fun hmem => (List.mem_append.mp hmem).elim (by decide) ?_
    exact hend (by decide) (by decide)

theorem last_poolStateAny (h : Form.poolStateAny.pattern.Reads prev found rest) :
    found.getLast? = some '>' := by
  obtain ⟨inner, rfl⟩ := reads_poolStateAny h
  simp [List.getLast?_cons, List.getLast?_append]

end

structure Unreached (needle : Text) : Prop where
  authParam : ∀ {prev found rest}, Form.authState.pattern.Reads prev found rest →
    (exactly needle).Shut found
  pool : ∀ {prev found rest}, Form.poolDeref.pattern.Reads prev found rest →
    (exactly needle).Shut found
  access : ∀ {prev found rest}, Form.authAccess.pattern.Reads prev found rest →
    (exactly needle).Shut found
  authImport : ∀ {prev found rest}, Form.authImportLine.pattern.Reads prev found rest →
    (exactly needle).Shut found

theorem unreached_appStateImport : Unreached appStateImport where
  authParam h := (shut_authState h).1
  pool h := (shut_poolDeref_found h).1
  access h := (shut_authAccess h).1
  authImport h := (shut_authImportLine h).1

theorem unreached_appStateParam : Unreached appStateParam where
  authParam h := (shut_authState h).2
  pool h := (shut_poolDeref_found h).2
  access h := (shut_authAccess h).2
  authImport h := (shut_authImportLine h).2

namespace Unreached

variable {needle text : Text} (h : Unreached needle) (hin : needle.within text = true)

include h hin

theorem routing : needle.within
    (authViaState.apply (poolViaState.apply (dropAuthParam.apply text))) = true := by
  have hparam : needle.within (dropAuthParam.apply text) = true :=
    Form.authState.within_apply rfl rfl rfl h.authParam hin
  exact Form.authAccess.within_apply rfl rfl rfl h.access
    (Form.poolDeref.within_apply rfl poolViaState_action (by decide) h.pool hparam)

theorem dropAuthImport : needle.within (dropAuthImport.apply text) = true :=
  Form.authImportLine.within_apply rfl rfl rfl h.authImport hin

end Unreached

theorem shut_sharedParam : (exactly appStateImport).Shut (Text.spell "State(state): State<AppState>") :=
  shut_appStateImport (c := '>') rfl (by decide) (by decide)

theorem shut_sharedPool : (exactly appStateImport).Shut (Text.spell "&*state.pool") :=
  shut_of_head (c := 'u') (d := '&') (by decide) rfl (by decide) (by decide)

theorem ImportEdit.shut_old {old new : Text} (h : ImportEdit old new) :
    (exactly appStateParam).Shut old := by
  cases h with
  | @line indent added hindent hadded =>
    have hplain : '>' ∉ indent := fun hmem => absurd (hindent _ hmem) (by decide)
    exact shut_appStateParam (c := '\n') (by simp [List.getLast?_cons, List.getLast?_append])
      (by decide) (by simpa using hplain)
  | entry hentry => exact shut_appStateParam (c := '\x7b') rfl (by decide) (by decide)
  | @single name entry hname hentry =>
    have hplain : '>' ∉ name := fun hmem => absurd (hname.word _ hmem) (by decide)
    have hmodule : '>' ∉ authModule := by decide
    exact shut_appStateParam (c := ';') (by simp [List.getLast?_append]) (by decide)
      (by simpa [hmodule] using hplain)
  | @group inner kept trail gap last happended =>
    have hplain : '>' ∉ trail := fun hmem => absurd (happended.loose_trail _ hmem) (by decide)
    exact shut_appStateParam (c := '\x7d') (by simp) (by decide) (by simpa using hplain)

/-- No statement ends within the type of a pool that is a parameter. -/
def PlainTypes (text : Text) : Prop :=
  ∀ front found after, text = front ++ (found ++ after) →
    Form.poolStateAny.pattern.Reads (Text.lastFrom none front) found after → ';' ∉ found

section

variable {text : Text}

theorem within_importAppState (h : Form.frameworkLine.pattern.occurs none text = true) :
    appStateImport.within (importAppState.apply text) = true := by
  cases hin : appStateImport.within text with
  | true =>
    have hguard : importAppState.guard.holds text = false := by
      change (!appStateImport.within text) = false
      rw [hin]
      rfl
    rw [Rule.apply_of_guard_false hguard, hin]
  | false =>
    have hguard : importAppState.guard.holds text = true := by
      change (!appStateImport.within text) = true
      rw [hin]
      rfl
    obtain ⟨before, found, after, hfirst⟩ := exists_first text h
    rw [Form.frameworkLine.apply_insertAfter rfl rfl hguard hfirst, Text.within_iff_isInfix]
    exact ⟨before ++ found, '\n' :: after, by simp⟩

theorem plainTypes_of_not_occurs (h : Form.poolStateAny.pattern.occurs none text = false) :
    PlainTypes text := by
  intro front found after htext hreads
  have hyes := (occurs_iff _ _ _).mpr ⟨front, found, after, htext, hreads⟩
  rw [h] at hyes
  cases hyes

theorem extractAppStateAny_keeps_import (htypes : PlainTypes text)
    (h : appStateImport.within text = true) :
    appStateImport.within (extractAppStateAny.apply text) = true := by
  refine (Form.poolStateAny.patched_apply rfl extractAppStateAny_action (by decide)).within_kept
    (fun hfills => ?_) h
  obtain ⟨front, after, htext, hreads⟩ := hfills.placed
  exact shut_appStateImport (last_poolStateAny hreads) (by decide) (htypes _ _ _ htext hreads)

/-- A text with a statement that imports from the framework and ends its line comes out with the import
of the shared state, unless a statement ends within the type of a pool. -/
theorem fixHandlers_imports_appState
    (hline : Form.frameworkLine.pattern.occurs none (dropRawPoolImports.apply text) = true)
    (htypes : PlainTypes (RuleSet.throughAll (fixHandlers.rules.take 6) text)) :
    appStateImport.within (fixHandlers.apply text).content = true := by
  have hrules : fixHandlers.rules =
      ([dropRawPoolImports, importAppState] ++
        [extractAppState, dropAuthParam, poolViaState, authViaState]) ++
          ([extractAppStateAny, dropAuthImport] ++ fixHandlers.rules.drop 8) :=
    rfl
  have htake : fixHandlers.rules.take 6 = [dropRawPoolImports, importAppState] ++
      [extractAppState, dropAuthParam, poolViaState, authViaState] :=
    rfl
  rw [htake, RuleSet.throughAll_append] at htypes
  have hparam := Form.poolState.within_apply rfl extractAppState_action (by decide) shut_poolState
    (within_importAppState hline)
  have hany := extractAppStateAny_keeps_import htypes (unreached_appStateImport.routing hparam)
  rw [RuleSet.apply_content, hrules, RuleSet.throughAll_append, RuleSet.throughAll_append,
    RuleSet.throughAll_append]
  exact keeps_of_imports (fun _ hr => .inl hr) (fun text => appStateImport.within text = true)
    (fun hedit hin => hedit.within_appStateImport.trans hin) _
    (unreached_appStateImport.dropAuthImport hany)

/-! A text whose lines all end in a carriage return and a line feed. -/

theorem returned_extractAppState (h : Text.returned none text = true) :
    Text.returned none (extractAppState.apply text) = true := by
  have hbreak : '\n' ∉ Text.spell "State(state): State<AppState>" := by decide
  exact Form.poolState.returned_apply rfl extractAppState_action (by decide) (c := '>') (by decide)
    (fun hreads => ⟨last_poolStateAny (poolStateAny_of_poolState hreads), hbreak⟩) h

theorem returned_dropAuthParam (h : Text.returned none text = true) :
    Text.returned none (dropAuthParam.apply text) = true := by
  refine Form.authState.returned_apply rfl rfl rfl (c := '>') (by decide)
    (fun hreads => ⟨?_, List.not_mem_nil⟩) h
  obtain ⟨blanks, blanks', -, rfl⟩ := reads_authState hreads
  simp [List.getLast?_cons, List.getLast?_append]

theorem returned_poolViaState (h : Text.returned none text = true) :
    Text.returned none (poolViaState.apply text) = true := by
  have hbreak : '\n' ∉ Text.spell "&*state.pool" := by decide
  refine Form.poolDeref.returned_apply rfl poolViaState_action (by decide) (c := 'l') (by decide)
    (fun hreads => ⟨?_, hbreak⟩) h
  rcases found_poolDeref hreads with rfl | rfl <;> rfl

theorem returned_authViaState (h : Text.returned none text = true) :
    Text.returned none (authViaState.apply text) = true := by
  refine Form.authAccess.returned_apply rfl rfl rfl (c := '.') (by decide)
    (fun hreads => ⟨last_authAccess hreads, fun hmem => ?_⟩) h
  exact absurd (not_isFence_of_reads (reads_routeAuth hreads) _ hmem) (by decide)

theorem returned_extractAppStateAny (h : Text.returned none text = true) :
    Text.returned none (extractAppStateAny.apply text) = true := by
  have hbreak : '\n' ∉ Text.spell "State(state): State<AppState>" := by decide
  exact Form.poolStateAny.returned_apply rfl extractAppStateAny_action (by decide) (c := '>')
    (by decide) (fun hreads => ⟨last_poolStateAny hreads, hbreak⟩) h

theorem quiet_of_returned (h : Text.returned none text = true) :
    ∀ rule ∈ [dropRawPoolImports, importAppState, dropAuthImport], rule.apply text = text := by
  intro rule hr
  simp only [List.mem_cons, List.not_mem_nil, or_false] at hr
  rcases hr with rfl | rfl | rfl
  · exact Form.rawPoolImports.apply_of_not_occurs rfl
      (Form.rawPoolImports.not_occurs_of_returned endsLine_of_rawPoolImports h)
  · exact Form.frameworkLine.apply_of_not_occurs rfl
      (Form.frameworkLine.not_occurs_of_returned endsLine_of_framework h)
  · exact Form.authImportLine.apply_of_not_occurs rfl
      (Form.authImportLine.not_occurs_of_returned endsLine_of_authImportLine h)

/-- What the rules for the shared state make of a text whose lines end in a carriage return and a line
feed: they only rewrite parameters and accesses, and add imports of other names. -/
theorem fixHandlers_of_returned (h : Text.returned none text = true) :
    (fixHandlers.apply text).content = RuleSet.throughAll (fixHandlers.rules.drop 8)
      (extractAppStateAny.apply (authViaState.apply (poolViaState.apply
        (dropAuthParam.apply (extractAppState.apply text))))) := by
  have hrules : fixHandlers.rules =
      [dropRawPoolImports, importAppState, extractAppState, dropAuthParam, poolViaState,
        authViaState, extractAppStateAny, dropAuthImport] ++ fixHandlers.rules.drop 8 :=
    rfl
  have hrouted := returned_authViaState (returned_poolViaState (returned_dropAuthParam
    (returned_extractAppState h)))
  have hdrop := quiet_of_returned h dropRawPoolImports (by simp)
  have himport := quiet_of_returned h importAppState (by simp)
  have hlast := quiet_of_returned (returned_extractAppStateAny hrouted) dropAuthImport (by simp)
  refine ((RuleSet.apply_content _ _).trans
    (congrArg (fun rules => RuleSet.throughAll rules text) hrules)).trans ?_
  rw [RuleSet.throughAll_append]
  simp only [RuleSet.throughAll, List.foldl_cons, List.foldl_nil, hdrop, himport, hlast]

/-- A rule that puts the parameter with the shared state in does so if there is anything to replace. -/
theorem Form.within_appStateParam (form : Form) {rule : Rule}
    {valid : (Regex.read? form.source).isSome = true}
    (hm : rule.matcher = .regex (.ofText form.source valid)) (hg : rule.guard = .always)
    (ha : rule.action = .replace (.template (Text.spell "State(state): State<AppState>")) .all)
    (h : form.pattern.occurs none text = true ∨ appStateParam.within text = true) :
    appStateParam.within (rule.apply text) = true := by
  rcases (form.swept_fixed hm hg ha (by decide)).eq_or_fresh with ⟨hno, hsame⟩ |
    ⟨found, fresh, front, back, ⟨-, rfl⟩, hout⟩
  · rw [hno] at h
    rw [hsame]
    exact h.resolve_left Bool.false_ne_true
  · rw [hout, appStateParam_spelled, Text.within_iff_isInfix]
    exact ⟨front, back, by simp⟩

theorem not_within_authViaState (h : appStateImport.within text = false) :
    appStateImport.within (authViaState.apply text) = false := by
  refine Form.authAccess.not_within_apply rfl rfl rfl (fun hreads => ?_) h
  exact unreached_appStateImport.access (reads_routeAuth hreads)

/-- A text whose lines end in a carriage return and a line feed comes out with the parameter for the
shared state and without the import that it needs. -/
theorem fixHandlers_returned (hreturned : Text.returned none text = true)
    (hpool : Form.poolState.pattern.occurs none text = true)
    (hlacks : appStateImport.within (dropAuthParam.apply (extractAppState.apply text)) = false) :
    appStateParam.within (fixHandlers.apply text).content = true ∧
      appStateImport.within (fixHandlers.apply text).content = false := by
  have himports : ∀ rule ∈ fixHandlers.rules.drop 8,
      rule ∈ fixHandlers.rules.drop 8 ∨ rule ∈ revertHandlers.rules.drop 7 := fun _ hr => .inl hr
  rw [fixHandlers_of_returned hreturned]
  constructor
  · have hparam := Form.poolState.within_appStateParam rfl rfl extractAppState_action (.inl hpool)
    have hany := Form.poolStateAny.within_appStateParam rfl rfl extractAppStateAny_action
      (.inr (unreached_appStateParam.routing hparam))
    exact keeps_of_imports himports (fun text => appStateParam.within text = true)
      (fun hedit hin => (Patched.step (.refl _) hedit).within_kept (fun h => h.shut_old) hin) _ hany
  · have hpool := Form.poolDeref.not_within_apply rfl poolViaState_action (by decide)
      (fun _ => shut_sharedPool) hlacks
    have haccess := not_within_authViaState hpool
    have hany := Form.poolStateAny.not_within_apply rfl extractAppStateAny_action (by decide)
      (fun _ => shut_sharedParam) haccess
    exact keeps_of_imports himports (fun text => appStateImport.within text = false)
      (fun hedit hno => hedit.within_appStateImport.trans hno) _ hany

end

/-- Files with separate parameters have the statement, and no type with a statement in it. -/
theorem fixHandlers_imports_separate (handlers : List Handler) :
    appStateImport.within (fixHandlers.apply (separate.file handlers)).content = true := by
  have htake : fixHandlers.rules.take 6 =
      [dropRawPoolImports, importAppState, extractAppState, dropAuthParam, poolViaState,
        authViaState] :=
    rfl
  refine fixHandlers_imports_appState ?_ ?_
  · rw [Migration.dropRawPoolImports_file, Convention.file_eq]
    have hwidth : Form.frameworkLine.pattern.width? none
        (Migration.poolImportsDropped.imports ++ Migration.poolImportsDropped.rest handlers) =
          some Migration.poolImportsDropped.imports.length :=
      width?_of_widthIn? (by decide) _
    exact Bool.or_eq_true_iff.mpr (.inl (Option.isSome_of_eq_some hwidth))
  · rw [htake]
    simp only [RuleSet.throughAll, List.foldl_cons, List.foldl_nil,
      Migration.dropRawPoolImports_file, Migration.importAppState_file,
      Migration.extractAppState_file, Migration.dropAuthParam_file, Migration.poolViaState_file,
      Migration.authViaState_file]
    exact plainTypes_of_not_occurs
      (Form.poolStateAny.not_occurs_file begins_lit (by decide) (by decide) handlers)

/-- The text has a line that imports from the framework, whatever ends the line. -/
def HasFrameworkLine (text : Text) : Prop :=
  ∃ line ∈ Text.lines text, line.getLast? = some '\n' ∧ Text.spell "use axum::" <+: line ∧
    (Text.chomp line).getLast? = some ';'

/-- A handler with the pool, in lines that end in a carriage return and a line feed. -/
def returnedList : Text :=
  Text.spell "use axum::Json;\r\n\r\n" ++
    Text.spell "pub async fn list(State(pool): State<Arc<PgPool>>) -> Json<u8> \x7b\r\n" ++
      Text.spell "    all(pool).await\r\n\x7d\r\n"

theorem fixHandlers_returnedList :
    appStateParam.within (fixHandlers.apply returnedList).content = true ∧
      appStateImport.within (fixHandlers.apply returnedList).content = false :=
  fixHandlers_returned (by decide) (by decide +kernel) (by decide +kernel)

/-- Not every file with a line that imports from the framework gets the import that its parameter
needs. -/
theorem not_fixHandlers_imports_appState :
    ¬ ∀ text, HasFrameworkLine text → appStateParam.within (fixHandlers.apply text).content = true →
      appStateImport.within (fixHandlers.apply text).content = true := by
  intro hall
  have hline : HasFrameworkLine returnedList :=
    ⟨Text.spell "use axum::Json;\r\n", by decide, by decide, by decide, by decide⟩
  obtain ⟨hparam, hlacks⟩ := fixHandlers_returnedList
  rw [hall returnedList hline hparam] at hlacks
  cases hlacks

end Catalog

end Recast
