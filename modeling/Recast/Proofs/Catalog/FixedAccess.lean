import Recast.Proofs.Catalog.ImportPatches
import Recast.Proofs.Catalog.Repairs
import Recast.Proofs.Pattern.Chunk

/-! The rules for the shared state leave no parameter with a raw pool behind, no dereferenced pool and
no access to auth without a receiver, in any text from which they do not drop the import of `Auth`. The
three are gone once the rules for them have been applied, and what a later rule puts into the text makes
none. Only the dropped import is a removal that comes later, and what it brings together is not
known. -/

namespace Recast.Catalog

open Pattern

section

variable {prev : Option Char} {text before found after : Text}

/-- The first access of a text that needs no routing needs none, and neither does the rest. -/
theorem Routed.first (hf : Form.authAccess.pattern.First prev text before found after)
    (h : Routed prev text) :
    routeAuth found = found ∧ Routed (Text.lastFrom prev (before ++ found)) after := by
  have hne := hf.reads.ne_nil Form.authAccess.consumes
  have hfound := length_le_routeAuth hf.reads
  have hafter := length_le_rewriteFrom after 0 (Text.lastFrom prev (before ++ found))
  have hwhole : routeAuth found ++ Form.authAccess.pattern.rewriteFrom routeAuth 0
      (Text.lastFrom prev (before ++ found)) after = found ++ after := by
    have hrewritten := (hf.rewriteFrom hne).symm.trans h
    rw [hf.split] at hrewritten
    exact List.append_cancel_left hrewritten
  have hlength := congrArg List.length hwhole
  simp only [List.length_append] at hlength
  exact List.append_inj hwhole (by omega)

theorem Routed.receivers {whole front : Text} (hwhole : whole = front ++ text)
    (h : Routed (Text.lastFrom none front) text) :
    ∀ hit ∈ Form.authAccess.pattern.hitsFrom 0 front.length (Text.lastFrom none front) text,
      ∃ name, IsName name ∧ hit.span.slice whole = name ++ heldAccess := by
  generalize hprev : Text.lastFrom none front = prev at h ⊢
  induction prev, text using first_induction Form.authAccess.consumes generalizing front with
  | quiet prev text hquiet =>
    rw [hitsFrom_eq_nil hquiet]
    exact List.forall_mem_nil _
  | first prev text before found after hfirst hne ih =>
    subst hprev
    obtain ⟨hkept, hrest⟩ := h.first hfirst
    obtain ⟨hit, hhits, -, hspan⟩ := hfirst.hitsFrom hne front.length
    have hhere : whole = (front ++ before) ++ (found ++ after) := by
      rw [hwhole, hfirst.split, List.append_assoc]
    have hpos : front.length + before.length + found.length =
        (front ++ (before ++ found)).length := by
      simp only [List.length_append]
      omega
    have hbehind : whole = (front ++ (before ++ found)) ++ after := by
      rw [hhere]
      simp only [List.append_assoc]
    have hmore := ih hbehind (Text.lastFrom_append none front (before ++ found)) hrest
    rw [hhits, hpos]
    refine List.forall_mem_cons.mpr ⟨?_, hmore⟩
    obtain ⟨-, name, hname, hroute, -⟩ := routeAuth_reads hfirst.reads
    refine ⟨name, hname, ?_⟩
    rw [hspan, hhere, ← List.length_append, Span.slice_found, ← hkept, hroute]

end

theorem routed_authViaState (text : Text) : Routed none (authViaState.apply text) := by
  rw [authViaState_apply]
  exact rewrite_routed text none

theorem authViaState_spans (text : Text) : authViaState.matcher.spans text =
    (Form.authAccess.pattern.hitsFrom 0 0 none text).map (·.span) := by
  have hp : (Regex.ofText "(?:\\b\\w+\\.)?\\bauth\\.".toList).pattern = Form.authAccess.pattern :=
    Form.authAccess.pattern_ofText
  rw [← findAll_eq_hitsFrom Form.authAccess.settled Form.authAccess.consumes, ← hp]
  rfl

theorem receivers_of_routed {text : Text} (h : Routed none text) :
    ∀ span ∈ authViaState.matcher.spans text,
      ∃ name, IsName name ∧ span.slice text = name ++ heldAccess := by
  intro span hs
  rw [authViaState_spans] at hs
  obtain ⟨hit, hhit, rfl⟩ := List.mem_map.mp hs
  have hwhole : text = [] ++ text := rfl
  exact Routed.receivers hwhole h hit hhit

theorem authViaState_of_routed {text : Text} (h : Routed none text) :
    authViaState.apply text = text :=
  (authViaState_apply text).trans h

inductive AuthRouted : Text → Text → Prop where
  | bare : AuthRouted bareAccess (Text.spell "state" ++ heldAccess)

theorem patched_authViaState (text : Text) : Patched AuthRouted text (authViaState.apply text) := by
  refine (Form.authAccess.patched_apply rfl rfl rfl).keeps (Patched AuthRouted text) ?_ (.refl text)
  rintro first found _ second ⟨⟨front, after, -, hreads⟩, rfl⟩ hpatched
  rw [Replacement.acts_computed]
  obtain ⟨-, name, -, hroute, ⟨rfl, rfl⟩ | rfl⟩ := routeAuth_reads hreads
  · rw [hroute]
    exact hpatched.step .bare
  · rw [hroute]
    exact hpatched

/-- A text that begins with a character that no dereferenced pool contains, and has none of its
beginning in it. -/
theorem shut_poolDeref {c : Char} {more : Text} (hc : c ∉ Text.spell "&*pool")
    (hbegin : (Text.spell "&*").clears (c :: more) = true) :
    Form.poolDeref.pattern.Shut (c :: more) := by
  refine ⟨by simp, stops_of_clears fun hreads => ?_, begins_lit.quiet hbegin⟩
  refine Text.clears_of_head_notin fun hmem => hc ?_
  rcases found_poolDeref hreads with rfl | rfl
  · exact List.mem_of_mem_tail hmem
  · have hsame : Text.spell "&**pool" ⊆ Text.spell "&*pool" := by decide
    exact hsame (List.mem_of_mem_tail hmem)

theorem poolDeref_poolViaState (text : Text) :
    Form.poolDeref.pattern.occurs none (poolViaState.apply text) = false := by
  refine Form.poolDeref.not_occurs_apply_fixed rfl rfl poolViaState_action (by decide)
    ⟨by decide, stops_of_clears fun hreads => ?_, fun _ => quiet_of_quietIn rfl⟩ fun hreads => ?_
  · rcases found_poolDeref hreads with rfl | rfl <;> decide
  · rcases found_poolDeref hreads with rfl | rfl
    · exact blind_of_edged (by decide) (by decide) (by decide)
    · exact blind_of_edged (by decide) (by decide) (by decide)

theorem poolDeref_authViaState {text : Text}
    (h : Form.poolDeref.pattern.occurs none text = false) :
    Form.poolDeref.pattern.occurs none (authViaState.apply text) = false := by
  refine (patched_authViaState text).not_occurs (fun hpatch => ?_) h
  cases hpatch
  exact ⟨shut_poolDeref (by decide) (by decide), blind_of_edged (by decide) (by decide) (by decide)⟩

theorem appStateParam_spelled : appStateParam = Text.spell "State(state): State<AppState>" :=
  (Text.spell_eq _).symm

theorem extractAppStateAny_action :
    extractAppStateAny.action =
      .replace (.template (Text.spell "State(state): State<AppState>")) .all := by
  rw [← appStateParam_spelled]
  rfl

section

variable {prev : Option Char} {found rest : Text}

/-- A parameter with a pool of any type: everything between the parenthesis and the last bracket. -/
theorem reads_poolStateAny (h : Form.poolStateAny.pattern.Reads prev found rest) :
    ∃ inner, found = Text.spell "State" ++ ('(' :: (inner ++ ['>'])) := by
  obtain ⟨_, rfl, hmore⟩ := reads_lit.mp h
  obtain ⟨blanks, _, rfl, -, htype⟩ := reads_seq.mp hmore
  obtain ⟨_, rfl, harguments⟩ := reads_lit.mp htype
  obtain ⟨arguments, _, rfl, -, hlast⟩ := reads_seq.mp harguments
  obtain ⟨c, rfl, hc⟩ := reads_char.mp hlast
  rw [CharClass.has_single.mp hc]
  exact ⟨Text.spell "pool):" ++ (blanks ++ (Text.spell "State<" ++ arguments)), by
    simp [Text.spell]⟩

/-- The pattern for any type of pool matches wherever the one for the usual type does. -/
theorem poolStateAny_of_poolState (h : Form.poolState.pattern.Reads prev found rest) :
    Form.poolStateAny.pattern.Reads prev found rest := by
  obtain ⟨_, rfl, hmore⟩ := reads_lit.mp h
  obtain ⟨blanks, _, rfl, hblanks, htype⟩ := reads_seq.mp hmore
  obtain ⟨_, rfl, hlast⟩ := reads_lit.mp htype
  refine reads_lit.mpr ⟨_, rfl, reads_seq.mpr ⟨blanks, _, rfl, hblanks, ?_⟩⟩
  refine reads_lit.mpr ⟨Text.spell "Arc<PgPool>" ++ _, rfl, reads_seq.mpr ⟨_, _, rfl, ?_, hlast⟩⟩
  exact (Form.reads_nest (by decide) 2).mpr ⟨by decide, by decide⟩

end

theorem poolState_extractAppStateAny (text : Text) :
    Form.poolState.pattern.occurs none (extractAppStateAny.apply text) = false := by
  refine (Form.poolStateAny.swept_fixed rfl rfl extractAppStateAny_action (by decide)).not_occurs_of_reads
    Form.poolStateAny.consumes poolStateAny_of_poolState ?_
  rintro found _ ⟨-, rfl⟩
  refine ⟨⟨by decide, stops_of_clears fun hreads => ?_, begins_lit.quiet (by decide)⟩,
    blind_of_lookless (by decide) (by decide)⟩
  obtain ⟨blanks, hblanks, rfl⟩ := reads_param hreads
  have hblank : Text.clears (Text.spell "State(state): State<AppState>") blanks = true :=
    Text.clears_of_head_notin fun hmem => absurd (hblanks _ hmem) (by decide)
  exact Text.clears_append (by decide) (Text.clears_append hblank (by decide))

theorem poolDeref_extractAppStateAny {text : Text}
    (h : Form.poolDeref.pattern.occurs none text = false) :
    Form.poolDeref.pattern.occurs none (extractAppStateAny.apply text) = false := by
  refine Form.poolStateAny.kept_apply_fixed rfl rfl extractAppStateAny_action (by decide)
    (shut_poolDeref (by decide) (by decide)) (fun hreads => ?_) h
  obtain ⟨inner, rfl⟩ := reads_poolStateAny hreads
  refine blind_of_edged (by decide) (by decide)
    (@sameEdges_of_ends _ _ 'S' '>' 'S' '>' rfl ?_ rfl rfl rfl rfl)
  simp [List.getLast?_cons, List.getLast?_append]

theorem routed_extractAppStateAny {text : Text} (h : Routed none text) :
    Routed none (extractAppStateAny.apply text) := by
  refine ((Form.poolStateAny.swept_fixed rfl rfl extractAppStateAny_action (by decide)).patched
    fun h => Patched.single h).keeps (Routed none) ?_ h
  rintro first old _ second ⟨⟨prev, rest, hreads⟩, rfl⟩ hold
  obtain ⟨inner, rfl⟩ := reads_poolStateAny hreads
  have hpatch := @Routed.patch none (first ++ Text.spell "State") ('(' :: (inner ++ ['>']))
    (Text.spell "(state): State<AppState>") second
    (@fenced_of_ends _ '(' '>' rfl (by simp [List.getLast?_cons, List.getLast?_append]) (by decide)
      (by decide))
    (by decide) (quiet_authAccess (by decide) (by decide)) (by simpa using hold)
  simpa [Text.spell] using hpatch

/-- The rules that route pool and auth through the shared state have nothing to do in a text: it has no
parameter with a raw pool, no dereferenced pool, and every access to auth in it has a receiver. -/
structure RoutedThroughState (text : Text) : Prop where
  quiet : ∀ rule ∈ [extractAppState, poolViaState, authViaState], rule.fire? text = none
  no_param : extractAppState.matcher.isMatch text = false
  no_pool : poolViaState.matcher.isMatch text = false
  receivers : ∀ span ∈ authViaState.matcher.spans text,
    ∃ name, IsName name ∧ span.slice text = name ++ heldAccess

theorem routedThroughState_of {text : Text}
    (hparam : Form.poolState.pattern.occurs none text = false)
    (hpool : Form.poolDeref.pattern.occurs none text = false) (hauth : Routed none text) :
    RoutedThroughState text where
  quiet := by
    intro rule hr
    simp only [List.mem_cons, List.not_mem_nil, or_false] at hr
    rcases hr with rfl | rfl | rfl
    · exact (Rule.fire?_eq_none_iff _ _).mpr (Form.poolState.apply_of_not_occurs rfl hparam)
    · exact (Rule.fire?_eq_none_iff _ _).mpr (Form.poolDeref.apply_of_not_occurs rfl hpool)
    · exact (Rule.fire?_eq_none_iff _ _).mpr (authViaState_of_routed hauth)
  no_param := (Form.poolState.isMatch text).trans hparam
  no_pool := (Form.poolDeref.isMatch text).trans hpool
  receivers := receivers_of_routed hauth

/-- Whatever the text, unless the rules for the shared state drop the import of `Auth` from it, they
leave no parameter with a raw pool, no dereferenced pool, and no access to auth without a receiver. -/
theorem fixHandlers_leaves_no_raw_access (text : Text)
    (h : dropAuthImport.name ∉ (fixHandlers.apply text).fired) :
    RoutedThroughState (fixHandlers.apply text).content := by
  have hrules : fixHandlers.rules =
      ([dropRawPoolImports, importAppState, extractAppState, dropAuthParam] ++
        [poolViaState, authViaState, extractAppStateAny]) ++
          dropAuthImport :: fixHandlers.rules.drop 8 :=
    rfl
  have hkept := RuleSet.apply_of_not_fired hrules h
  rw [RuleSet.apply_content, hrules, RuleSet.throughAll_append _ (dropAuthImport :: _),
    RuleSet.throughAll, List.foldl_cons, hkept, RuleSet.throughAll_append]
  generalize RuleSet.throughAll
    [dropRawPoolImports, importAppState, extractAppState, dropAuthParam] text = cleared
  have himports : ∀ rule ∈ fixHandlers.rules.drop 8,
      rule ∈ fixHandlers.rules.drop 8 ∨ rule ∈ revertHandlers.rules.drop 7 := fun _ hr => .inl hr
  refine routedThroughState_of ?_ ?_ ?_
  · exact foreign_poolState.not_occurs himports
      (poolState_extractAppStateAny (authViaState.apply (poolViaState.apply cleared)))
  · exact foreign_poolDeref.not_occurs himports (poolDeref_extractAppStateAny
      (poolDeref_authViaState (poolDeref_poolViaState cleared)))
  · exact keeps_of_imports himports (Routed none) (fun hedit hr => hedit.routed hr) _
      (routed_extractAppStateAny (routed_authViaState (poolViaState.apply cleared)))

theorem fixHandlers_leaves_no_raw_access_call :
    dropAuthImport.name ∉ (fixHandlers.apply (Text.spell "auth.f(&**pool)")).fired ∧
      RoutedThroughState (fixHandlers.apply (Text.spell "auth.f(&**pool)")).content := by
  have hfired : dropAuthImport.name ∉ (fixHandlers.apply (Text.spell "auth.f(&**pool)")).fired := by
    decide +kernel
  exact ⟨hfired, fixHandlers_leaves_no_raw_access _ hfired⟩

end Recast.Catalog
