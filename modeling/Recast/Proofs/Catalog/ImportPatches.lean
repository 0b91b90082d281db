import Mathlib.Data.Bool.AllAny
import Recast.Proofs.Catalog.AccessOrder
import Recast.Proofs.Catalog.ExtensionGroup

/-! The rules that add imports put a line behind a statement, an entry into a group, or make a group of
a name. The characters that go in with it are those of names, white space and import statements, so a
pattern that begins with another one gets no new match, and no access to auth arises. -/

namespace Recast.Catalog

open Pattern

def importLines : List Text :=
  [extensionImportLine, "use crate::auth::Claims;\n".toList, poolImport ++ ['\n'], arcImport ++ ['\n'],
    "use crate::auth::Auth;\n".toList]

def groupEntries : List Text := [Text.spell "Claims, ", Text.spell "Auth, "]

inductive ImportEdit : Text → Text → Prop where
  | line {indent added : Text} (hindent : ∀ c ∈ indent, isIndent c = true)
    (hadded : added ∈ importLines) :
    ImportEdit (';' :: (indent ++ ['\n'])) (';' :: (indent ++ '\n' :: added))
  | entry {entry : Text} (hentry : entry ∈ groupEntries) : ImportEdit ['\x7b'] ('\x7b' :: entry)
  | single {name entry : Text} (hname : IsName name) (hentry : entry ∈ groupEntries) :
    ImportEdit (authModule ++ (name ++ [';']))
      (authModule ++ ('\x7b' :: (entry ++ (name ++ ['\x7d', ';']))))
  | group {inner kept trail gap last : Text} (happended : Appended inner kept trail gap last) :
    ImportEdit (trail ++ ['\x7d']) (',' :: (gap ++ (extensionName ++ (last ++ ['\x7d']))))

section

variable {text : Text}

theorem reads_lineEnd {prev : Option Char} {rest : Text} (h : Form.lineEnd.Reads prev text rest) :
    ∃ indent, (∀ c ∈ indent, isIndent c = true) ∧ text = indent ++ ['\n'] := by
  obtain ⟨indent, last, rfl, hindent, hlast⟩ := reads_seq.mp h
  obtain ⟨c, rfl, hc⟩ := reads_char.mp hlast
  rw [CharClass.has_single.mp hc]
  exact ⟨indent, Form.reads_indent.mp hindent, rfl⟩

def EndsLine (found : Text) : Prop :=
  ∃ statement indent, found = statement ++ ';' :: (indent ++ ['\n']) ∧
    ∀ c ∈ indent, isIndent c = true

theorem endsLine_of_fixed {pattern : Pattern} (statement : Text)
    (hp : pattern = lit (statement ++ [';']) Form.lineEnd) {prev : Option Char} {found rest : Text}
    (h : pattern.Reads prev found rest) : EndsLine found := by
  rw [hp] at h
  obtain ⟨more, rfl, hmore⟩ := reads_lit.mp h
  obtain ⟨indent, hindent, rfl⟩ := reads_lineEnd hmore
  exact ⟨statement, indent, by simp, hindent⟩

theorem endsLine_of_framework {prev : Option Char} {found rest : Text}
    (h : Form.frameworkLine.pattern.Reads prev found rest) : EndsLine found := by
  obtain ⟨_, rfl, hmore⟩ := reads_lit.mp h
  obtain ⟨names, _, rfl, -, hend⟩ := reads_seq.mp hmore
  obtain ⟨more, rfl, hline⟩ := reads_lit.mp hend
  obtain ⟨indent, hindent, rfl⟩ := reads_lineEnd hline
  exact ⟨Text.spell "use axum::" ++ names, indent, by simp, hindent⟩

/-- A rule that inserts an import line behind matches that end a statement and its line. -/
theorem patched_of_line (form : Form) {rule : Rule} {added : Text}
    {valid : (Regex.read? form.source).isSome = true}
    (hm : rule.matcher = .regex (.ofText form.source valid))
    (ha : rule.action = .insert added .after) (hadded : added ∈ importLines)
    (hreads : ∀ {prev found rest}, form.pattern.Reads prev found rest → EndsLine found) :
    Patched ImportEdit text (rule.apply text) := by
  by_cases hg : rule.guard.holds text = true
  · by_cases ho : form.pattern.occurs none text = true
    · obtain ⟨before, found, after, hfirst⟩ := exists_first text ho
      obtain ⟨statement, indent, rfl, hindent⟩ := hreads hfirst.reads
      have hstep : Patched ImportEdit
          ((before ++ statement) ++ (';' :: (indent ++ ['\n']) ++ after))
          ((before ++ statement) ++ (';' :: (indent ++ '\n' :: added) ++ after)) :=
        .step (.refl _) (.line hindent hadded)
      rw [form.apply_insertAfter hm ha hg hfirst, hfirst.split]
      simpa using hstep
    · rw [form.apply_of_not_occurs hm (by simpa using ho)]
      exact .refl text
  · rw [Rule.apply_of_guard_false (by simpa using hg)]
    exact .refl text

theorem patched_of_fixed_line (form : Form) {rule : Rule} {added : Text} (statement : Text)
    {valid : (Regex.read? form.source).isSome = true}
    (hm : rule.matcher = .regex (.ofText form.source valid))
    (hp : form.pattern = lit (statement ++ [';']) Form.lineEnd)
    (ha : rule.action = .insert added .after) (hadded : added ∈ importLines) :
    Patched ImportEdit text (rule.apply text) :=
  patched_of_line form hm ha hadded (endsLine_of_fixed statement hp)

theorem patched_of_framework_line {rule : Rule} {added : Text}
    (hm : rule.matcher = frameworkImport) (ha : rule.action = .insert added .after)
    (hadded : added ∈ importLines) : Patched ImportEdit text (rule.apply text) :=
  patched_of_line Form.frameworkLine hm ha hadded endsLine_of_framework

theorem patched_of_appended {rule : Rule} (hm : rule.matcher = .braced frameworkGroup)
    (ha : rule.action = .replace (.computed appendExtension) .first) :
    Patched ImportEdit text (rule.apply text) := by
  rcases apply_group_cases hm ha text with hsame | ⟨before, inner, after, hgroup, -, happly⟩
  · rw [hsame]
    exact .refl text
  · obtain ⟨kept, trail, gap, last, happended, heq⟩ := appendExtension_grouped inner
    have hstep : Patched ImportEdit
        ((before ++ (frameworkUse ++ '\x7b' :: kept)) ++ ((trail ++ ['\x7d']) ++ after))
        ((before ++ (frameworkUse ++ '\x7b' :: kept)) ++
          ((',' :: (gap ++ (extensionName ++ (last ++ ['\x7d'])))) ++ after)) :=
      .step (.refl _) (.group happended)
    rw [happly, heq, hgroup.split, happended.split]
    simpa [grouped, withExtension] using hstep

theorem Joined.patched {entry out : Text} (hentry : entry ∈ groupEntries)
    (h : Joined entry text out) : Patched ImportEdit text out := by
  cases h with
  | group front back =>
    have hstep : Patched ImportEdit ((front ++ authModule) ++ (['\x7b'] ++ back))
        ((front ++ authModule) ++ (('\x7b' :: entry) ++ back)) :=
      .step (.refl _) (.entry hentry)
    simpa using hstep
  | single front back hname =>
    have hstep := Patched.step (.refl (front ++ (_ ++ back))) (ImportEdit.single hname hentry)
    simpa using hstep

theorem patched_of_joined {rule : Rule} {entry : Text} (hentry : entry ∈ groupEntries)
    (h : rule.apply text = text ∨ Joined entry text (rule.apply text)) :
    Patched ImportEdit text (rule.apply text) := by
  rcases h with hsame | hjoined
  · rw [hsame]
    exact .refl text
  · exact hjoined.patched hentry

theorem patched_of_import {rule : Rule}
    (h : rule ∈ fixHandlers.rules.drop 8 ∨ rule ∈ revertHandlers.rules.drop 7) :
    Patched ImportEdit text (rule.apply text) := by
  have hclaims : Text.spell "Claims, " ∈ groupEntries := by decide
  have hauth : Text.spell "Auth, " ∈ groupEntries := by decide
  simp only [fixHandlers, revertHandlers, RuleSet.ofRules, List.drop_succ_cons, List.drop_zero,
    List.mem_cons, List.not_mem_nil, or_false] at h
  rcases h with (rfl | rfl | rfl | rfl | rfl) | (rfl | rfl | rfl | rfl | rfl)
  · exact patched_of_appended rfl rfl
  · exact patched_of_framework_line rfl rfl (by simp [importLines])
  · exact patched_of_joined hclaims (joined_of_group (by decide) rfl rfl)
  · exact patched_of_joined hclaims (joined_of_single (by decide) rfl rfl)
  · exact patched_of_fixed_line Form.appStateLine (Text.spell "use crate::api::AppState") rfl rfl rfl
      (by simp [importLines])
  · exact patched_of_framework_line rfl rfl (by simp [importLines])
  · exact patched_of_fixed_line Form.poolImportLine (Text.spell "use sqlx::PgPool") rfl rfl rfl
      (by simp [importLines])
  · exact patched_of_joined hauth (joined_of_group (by decide) rfl rfl)
  · exact patched_of_joined hauth (joined_of_single (by decide) rfl rfl)
  · exact patched_of_fixed_line Form.arcImportLine (Text.spell "use std::sync::Arc") rfl rfl rfl
      (by simp [importLines])

theorem keeps_of_imports {rules : List Rule}
    (hrules : ∀ rule ∈ rules,
      rule ∈ fixHandlers.rules.drop 8 ∨ rule ∈ revertHandlers.rules.drop 7)
    (P : Text → Prop) (hedit : ∀ {first old new second}, ImportEdit old new →
      P (first ++ (old ++ second)) → P (first ++ (new ++ second))) :
    ∀ text, P text → P (RuleSet.throughAll rules text) := by
  induction rules with
  | nil => exact fun _ h => h
  | cons rule rules ih =>
    intro text ht
    have hpatched : Patched ImportEdit text (rule.apply text) :=
      patched_of_import (hrules rule List.mem_cons_self)
    exact ih (fun rule hr => hrules rule (List.mem_cons_of_mem _ hr)) _
      (hpatched.keeps P hedit ht)

end

def isImportChar (c : Char) : Bool :=
  Text.isWord c || Text.isBlank c || c ∈ [';', ':', ',', '\x7b', '\x7d']

structure EditEnds (old new : Text) : Prop where
  chars : ∀ c ∈ new, isImportChar c = true
  head : ∃ c ∈ [';', '\x7b', 'u', ','], new.head? = some c
  last : ∃ c ∈ ['\n', ' ', ';', '\x7d'], new.getLast? = some c
  edges : old.sameEdges new = true

theorem isImportChar_of_isWord {c : Char} (h : Text.isWord c = true) : isImportChar c = true := by
  rw [isImportChar, h]
  rfl

theorem isImportChar_of_isLoose {c : Char} (h : isLoose c = true) : isImportChar c = true := by
  rcases Bool.or_eq_true_iff.mp h with hblank | hcomma
  · rw [isImportChar, hblank, Bool.or_true]
    rfl
  · rw [eq_of_beq hcomma]
    decide

theorem isImportChar_of_isIndent {c : Char} (h : isIndent c = true) : isImportChar c = true := by
  rcases Bool.or_eq_true_iff.mp h with hspace | htab
  · rw [eq_of_beq hspace]
    decide
  · rw [eq_of_beq htab]
    decide

theorem importLines_ends {added : Text} (h : added ∈ importLines) :
    (∀ c ∈ added, isImportChar c = true) ∧ added.getLast? = some '\n' := by
  have hall : (importLines.all fun added =>
      added.all isImportChar && added.getLast? == some '\n') = true := by
    decide +kernel
  have hboth := List.all_eq_true.mp hall added h
  rw [Bool.and_eq_true, beq_iff_eq] at hboth
  exact ⟨List.all_eq_true.mp hboth.1, hboth.2⟩

theorem groupEntries_ends {entry : Text} (h : entry ∈ groupEntries) :
    (∀ c ∈ entry, isImportChar c = true) ∧ entry.getLast? = some ' ' := by
  have hall : groupEntries.all fun entry =>
      entry.all isImportChar && entry.getLast? == some ' ' := by
    decide
  have hboth := List.all_eq_true.mp hall entry h
  rw [Bool.and_eq_true, beq_iff_eq] at hboth
  exact ⟨List.all_eq_true.mp hboth.1, hboth.2⟩

theorem sameEdges_of_ends {old new : Text} {a b c d : Char} (holdHead : old.head? = some a)
    (holdLast : old.getLast? = some b) (hnewHead : new.head? = some c)
    (hnewLast : new.getLast? = some d) (hhead : Text.isWord a = Text.isWord c)
    (hlast : Text.isWord b = Text.isWord d) : old.sameEdges new = true := by
  have hold : old ≠ [] := by
    rintro rfl
    cases holdHead
  have hnew : new ≠ [] := by
    rintro rfl
    cases hnewHead
  simp [Text.sameEdges, Text.wordy, holdHead, holdLast, hnewHead, hnewLast, hhead, hlast, hold, hnew]

theorem Appended.head_trail {inner kept trail gap last : Text}
    (h : Appended inner kept trail gap last) :
    ∃ c, (trail ++ ['\x7d']).head? = some c ∧ Text.isWord c = false ∧ c ≠ '.' := by
  cases trail with
  | nil => exact ⟨'\x7d', rfl, by decide, by decide⟩
  | cons c trail =>
    have hloose := h.loose_trail c List.mem_cons_self
    refine ⟨c, rfl, isWord_of_isLoose hloose, ?_⟩
    rintro rfl
    exact absurd hloose (by decide)

theorem ImportEdit.ends {old new : Text} (h : ImportEdit old new) : EditEnds old new := by
  cases h with
  | @line indent added hindent hadded =>
    obtain ⟨hchars, hlast⟩ := importLines_ends hadded
    refine ⟨?_, ⟨';', by simp, rfl⟩, ⟨'\n', by simp, ?_⟩, ?_⟩
    · simp only [List.mem_cons, List.mem_append]
      rintro c (rfl | hc | rfl | hc)
      · decide
      · exact isImportChar_of_isIndent (hindent c hc)
      · decide
      · exact hchars c hc
    · simp [List.getLast?_cons, List.getLast?_append, hlast]
    · refine @sameEdges_of_ends _ _ ';' '\n' ';' '\n' rfl ?_ rfl ?_ rfl rfl
      · simp [List.getLast?_cons, List.getLast?_append]
      · simp [List.getLast?_cons, List.getLast?_append, hlast]
  | @entry entry hentry =>
    obtain ⟨hchars, hlast⟩ := groupEntries_ends hentry
    refine ⟨?_, ⟨'\x7b', by simp, rfl⟩, ⟨' ', by simp, ?_⟩, ?_⟩
    · simp only [List.mem_cons]
      rintro c (rfl | hc)
      · decide
      · exact hchars c hc
    · simp [List.getLast?_cons, hlast]
    · refine @sameEdges_of_ends _ _ '\x7b' '\x7b' '\x7b' ' ' rfl rfl rfl ?_ rfl (by decide)
      simp [List.getLast?_cons, hlast]
  | @single name entry hname hentry =>
    obtain ⟨hchars, -⟩ := groupEntries_ends hentry
    have hmodule : ∀ c ∈ authModule, isImportChar c = true := List.all_eq_true.mp (by decide)
    refine ⟨?_, ⟨'u', by simp, rfl⟩, ⟨';', by simp, ?_⟩, ?_⟩
    · simp only [List.mem_append, List.mem_cons, List.not_mem_nil, or_false]
      rintro c (hc | rfl | hc | hc | rfl | rfl)
      · exact hmodule c hc
      · decide
      · exact hchars c hc
      · exact isImportChar_of_isWord (hname.word c hc)
      · decide
      · decide
    · simp [List.getLast?_cons, List.getLast?_append]
    · refine @sameEdges_of_ends _ _ 'u' ';' 'u' ';' rfl ?_ rfl ?_ rfl rfl
      · simp [List.getLast?_append]
      · simp [List.getLast?_cons, List.getLast?_append]
  | @group inner kept trail gap last happended =>
    refine ⟨?_, ⟨',', by simp, rfl⟩, ⟨'\x7d', by simp, ?_⟩, ?_⟩
    · simp only [List.mem_append, List.mem_cons, List.not_mem_nil, or_false]
      rintro c (rfl | hc | hc | hc | rfl)
      · decide
      · exact isImportChar_of_isLoose (happended.loose_gap c hc)
      · exact isImportChar_of_isWord (isName_extension.word c hc)
      · exact isImportChar_of_isLoose (happended.loose_last c hc)
      · decide
    · simp [List.getLast?_cons, List.getLast?_append]
    · obtain ⟨c, hc, hword, -⟩ := happended.head_trail
      refine @sameEdges_of_ends _ _ c '\x7d' ',' '\x7d' hc ?_ rfl ?_ (hword.trans (by decide)) rfl
      · simp [List.getLast?_append]
      · simp [List.getLast?_cons, List.getLast?_append]

structure Foreign (pattern : Pattern) (fixed : Text) : Prop where
  settled : pattern.settled = true
  edged : pattern.edged = true
  begins : pattern.Begins fixed
  strange : ∃ c ∈ fixed, isImportChar c = false
  open_ended : ∀ c ∈ ['\n', ' ', ';', '\x7d'], c ∉ fixed
  headless : ∀ {prev found rest}, pattern.Reads prev found rest →
    ∀ c ∈ [';', '\x7b', 'u', ','], c ∉ found

theorem Foreign.patch {pattern : Pattern} {fixed old new : Text} (hf : Foreign pattern fixed)
    (h : ImportEdit old new) : pattern.Shut new ∧ pattern.Blind old new := by
  obtain ⟨hchars, ⟨c, hc, hhead⟩, ⟨d, hd, hlast⟩, hedges⟩ := h.ends
  obtain ⟨e, he, hstrange⟩ := hf.strange
  have hnew : e ∉ new := fun hmem => by
    rw [hchars e hmem] at hstrange
    cases hstrange
  have hclears : fixed.clears new = true := by
    refine Text.clears_of_notin he hnew fun d' hd' => ?_
    rw [hlast] at hd'
    obtain rfl := Option.some.inj hd'
    exact fun hmem => hf.open_ended d hd (List.dropLast_subset _ hmem)
  have hbegins : pattern.Begins fixed := hf.begins
  refine ⟨⟨?_, ?_, hbegins.quiet hclears⟩, blind_of_edged hf.settled hf.edged hedges⟩
  · rintro rfl
    cases hhead
  · obtain ⟨more, rfl⟩ := List.head?_eq_some_iff.mp hhead
    refine stops_of_clears fun hreads => Text.clears_of_head_notin fun hmem => ?_
    exact hf.headless hreads c hc (List.mem_of_mem_tail hmem)

/-- A pattern that is foreign to import edits has no match after them if it had none before. -/
theorem Foreign.not_occurs {pattern : Pattern} {fixed : Text} (hf : Foreign pattern fixed)
    {rules : List Rule} (hrules : ∀ rule ∈ rules,
      rule ∈ fixHandlers.rules.drop 8 ∨ rule ∈ revertHandlers.rules.drop 7)
    {text : Text} (hno : pattern.occurs none text = false) :
    pattern.occurs none (RuleSet.throughAll rules text) = false := by
  refine keeps_of_imports hrules (fun text => pattern.occurs none text = false) ?_ text hno
  intro first old new second hedit hold
  exact (Patched.step (.refl _) hedit).not_occurs (fun h => hf.patch h) hold

section

variable {prev : Option Char} {found rest head type : Text}

/-- A parameter of a handler: an extractor, and its type behind any white space. -/
theorem reads_param
    (h : (lit head (seq Form.blanks (lit type (Form.one '>')))).Reads prev found rest) :
    ∃ blanks, (∀ c ∈ blanks, CharClass.blank.has c = true) ∧
      found = head ++ (blanks ++ (type ++ ['>'])) := by
  obtain ⟨_, rfl, hmore⟩ := reads_lit.mp h
  obtain ⟨blanks, _, rfl, hblanks, htype⟩ := reads_seq.mp hmore
  obtain ⟨_, rfl, hlast⟩ := reads_lit.mp htype
  obtain ⟨c, rfl, hc⟩ := reads_char.mp hlast
  rw [CharClass.has_single.mp hc]
  exact ⟨blanks, Form.reads_blanks hblanks, rfl⟩

theorem notin_param {c : Char} (hfixed : c ∉ head ++ (type ++ ['>']))
    (hblank : CharClass.blank.has c = false)
    (h : (lit head (seq Form.blanks (lit type (Form.one '>')))).Reads prev found rest) :
    c ∉ found := by
  obtain ⟨blanks, hblanks, rfl⟩ := reads_param h
  simp only [List.mem_append, not_or] at hfixed ⊢
  refine ⟨hfixed.1, fun hmem => ?_, hfixed.2⟩
  rw [hblanks c hmem] at hblank
  cases hblank

theorem foreign_param {pattern : Pattern}
    (hp : pattern = lit head (seq Form.blanks (lit type (Form.one '>'))))
    (hs : pattern.settled = true) (he : pattern.edged = true)
    (hstrange : ∃ c ∈ head, isImportChar c = false)
    (hopen : ∀ c ∈ ['\n', ' ', ';', '\x7d'], c ∉ head)
    (hfixed : ∀ c ∈ [';', '\x7b', 'u', ','], c ∉ head ++ (type ++ ['>'])) :
    Foreign pattern head where
  settled := hs
  edged := he
  begins := by
    rw [hp]
    exact begins_lit
  strange := hstrange
  open_ended := hopen
  headless := by
    intro prev found rest hreads c hc
    rw [hp] at hreads
    have hplain : ∀ c ∈ [';', '\x7b', 'u', ','], CharClass.blank.has c = false :=
      List.all_iff_forall_prop.mp (by decide)
    exact notin_param (hfixed c hc) (hplain c hc) hreads

theorem found_statePool (h : Form.statePool.pattern.Reads prev found rest) :
    found = Text.spell "&*state.pool" := by
  obtain ⟨⟨stalk, hstalk, rfl⟩, -⟩ := reads_statePool.mp h
  rw [List.mem_singleton.mp hstalk]
  rfl

theorem found_poolDeref (h : Form.poolDeref.pattern.Reads prev found rest) :
    found = Text.spell "&*pool" ∨ found = Text.spell "&**pool" := by
  obtain ⟨⟨stalk, hstalk, rfl⟩, -⟩ := reads_poolDeref.mp h
  simp only [List.mem_cons, List.not_mem_nil, or_false] at hstalk
  rcases hstalk with rfl | rfl
  · exact .inl rfl
  · exact .inr rfl

end

theorem foreign_sharedState : Foreign Form.sharedState.pattern (Text.spell "State(state):") :=
  foreign_param rfl (by decide) (by decide) ⟨'(', by decide, by decide⟩
    (List.all_iff_forall_prop.mp (by decide)) (List.all_iff_forall_prop.mp (by decide))

theorem foreign_poolState : Foreign Form.poolState.pattern (Text.spell "State(pool):") :=
  foreign_param rfl (by decide) (by decide) ⟨'(', by decide, by decide⟩
    (List.all_iff_forall_prop.mp (by decide)) (List.all_iff_forall_prop.mp (by decide))

theorem foreign_statePool : Foreign Form.statePool.pattern (Text.spell "&*state.pool") where
  settled := by decide
  edged := by decide
  begins := begins_lit
  strange := ⟨'&', by decide, by decide⟩
  open_ended := List.all_iff_forall_prop.mp (by decide)
  headless := by
    intro prev found rest hreads
    rw [found_statePool hreads]
    exact List.all_iff_forall_prop.mp (by decide)

theorem foreign_poolDeref : Foreign Form.poolDeref.pattern (Text.spell "&*") where
  settled := by decide
  edged := by decide
  begins := begins_lit
  strange := ⟨'&', by decide, by decide⟩
  open_ended := List.all_iff_forall_prop.mp (by decide)
  headless := by
    intro prev found rest hreads
    rcases found_poolDeref hreads with rfl | rfl
    · exact List.all_iff_forall_prop.mp (by decide)
    · exact List.all_iff_forall_prop.mp (by decide)

/-- No access begins in a piece of text that has no dot and ends with a character that no access
contains. -/
theorem quiet_authAccess {text : Text} (hfence : text.getLast?.any isFence = true)
    (hdot : '.' ∉ text) (prev : Option Char) : Form.authAccess.pattern.Quiet prev text := by
  rintro left right tail rfl hne
  refine width?_eq_none_iff_reads.mpr fun found rest heq hreads => hdot ?_
  obtain ⟨front, c, rfl⟩ : ∃ front c, right = front ++ [c] :=
    ⟨right.dropLast, right.getLast hne, (List.dropLast_concat_getLast hne).symm⟩
  rw [← List.append_assoc, List.getLast?_concat] at hfence
  rw [List.append_assoc] at heq
  obtain ⟨gap, rfl⟩ := reads_before_fence hfence hreads heq
  have hfound : '.' ∈ found := by
    obtain ⟨-, rfl | ⟨name, -, rfl⟩⟩ := reads_authAccess.mp hreads
    · decide
    · exact List.mem_append_right _ List.mem_cons_self
  simp [hfound]

theorem isImportChar_ne_dot {c : Char} (h : isImportChar c = true) : c ≠ '.' := by
  rintro rfl
  exact absurd h (by decide)

theorem Routed.importPatch {prev : Option Char} {first old new second : Text}
    (hold : fenced old = true) (hnew : fenced new = true)
    (hchars : ∀ c ∈ new, isImportChar c = true) (h : Routed prev (first ++ (old ++ second))) :
    Routed prev (first ++ (new ++ second)) := by
  refine h.patch hold hnew (quiet_authAccess (Bool.and_eq_true_iff.mp hnew).2 fun hmem => ?_)
  exact isImportChar_ne_dot (hchars _ hmem) rfl

theorem fenced_of_ends {text : Text} {c d : Char} (hhead : text.head? = some c)
    (hlast : text.getLast? = some d) (hc : isFence c = true) (hd : isFence d = true) :
    fenced text = true := by
  rw [fenced, hhead, hlast, Option.any_some, Option.any_some, hc, hd]
  rfl

theorem ImportEdit.routed {prev : Option Char} {first old new second : Text}
    (h : ImportEdit old new) (hr : Routed prev (first ++ (old ++ second))) :
    Routed prev (first ++ (new ++ second)) := by
  have hends := h.ends
  cases h with
  | line hindent hadded =>
    obtain ⟨-, hlast⟩ := importLines_ends hadded
    refine hr.importPatch (@fenced_of_ends _ ';' '\n' rfl ?_ (by decide) (by decide))
      (@fenced_of_ends _ ';' '\n' rfl ?_ (by decide) (by decide)) hends.chars
    · simp [List.getLast?_cons, List.getLast?_append]
    · simp [List.getLast?_cons, List.getLast?_append, hlast]
  | entry hentry =>
    obtain ⟨-, hlast⟩ := groupEntries_ends hentry
    refine hr.importPatch (by decide) (@fenced_of_ends _ '\x7b' ' ' rfl ?_ (by decide) (by decide))
      hends.chars
    simp [List.getLast?_cons, hlast]
  | @single name entry hname hentry =>
    -- an access may contain a word of the statement, so the piece begins at the last colon
    have hmodule : authModule = Text.spell "use crate::auth:" ++ [':'] := rfl
    have hchars := hends.chars
    rw [hmodule] at hr hchars ⊢
    simp only [List.append_assoc, List.cons_append, List.nil_append] at hr hchars ⊢
    have hpatch := @Routed.importPatch prev (first ++ Text.spell "use crate::auth:")
      (':' :: (name ++ [';'])) (':' :: '\x7b' :: (entry ++ (name ++ ['\x7d', ';']))) second
      (@fenced_of_ends _ ':' ';' rfl ?_ (by decide) (by decide))
      (@fenced_of_ends _ ':' ';' rfl ?_ (by decide) (by decide))
      (fun c hc => hchars c (List.mem_append_right _ hc)) (by simpa using hr)
    · simpa using hpatch
    · simp [List.getLast?_cons, List.getLast?_append]
    · simp [List.getLast?_cons, List.getLast?_append]
  | @group inner kept trail gap last happended =>
    obtain ⟨c, hc, hword, hdot⟩ := happended.head_trail
    have hfence : isFence c = true := by simp [isFence, hword, hdot]
    refine hr.importPatch (@fenced_of_ends _ c '\x7d' hc ?_ hfence (by decide))
      (@fenced_of_ends _ ',' '\x7d' rfl ?_ (by decide) (by decide)) hends.chars
    · simp [List.getLast?_append]
    · simp [List.getLast?_cons, List.getLast?_append]

end Recast.Catalog
