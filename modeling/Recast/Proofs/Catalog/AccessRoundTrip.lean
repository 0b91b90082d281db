import Recast.Proofs.Catalog.FixedAccess
import Recast.Proofs.Catalog.RevertedAccess

/-! Reaching the pool and auth through the shared state and back. The way back finds exactly the places
that the way there has changed, unless the text already had such places, or a pool that was dereferenced
twice. Since the two ways of the pool and of auth do not meet, each is undone on its own. -/

namespace Recast.Catalog

open Pattern

def Lacks (stalk text : Text) : Prop :=
  ∀ front rest, text = front ++ '&' :: (stalk ++ rest) → Text.wordy rest.head? = true

theorem Lacks.behind {stalk front text : Text} (h : Lacks stalk (front ++ text)) : Lacks stalk text :=
  fun before rest heq => h (front ++ before) rest (by rw [heq, List.append_assoc])

theorem lacks_of_not_occurs {pattern : Pattern} {stalk text : Text}
    (hreads : ∀ {prev rest}, Text.wordy rest.head? = false → pattern.Reads prev ('&' :: stalk) rest)
    (h : pattern.occurs none text = false) : Lacks stalk text := by
  intro front rest heq
  refine Bool.of_not_eq_false fun hrest => Bool.eq_false_iff.mp h ?_
  exact (occurs_iff _ _ _).mpr ⟨front, '&' :: stalk, rest, by rw [heq]; simp, hreads hrest⟩

namespace PoolSweep

variable {pattern : Pattern} {old : List Text} {new : Text} (h : PoolSweep pattern old new)

include h

/-- What a swept text begins with, up to its first ampersand, stood there before. -/
theorem of_sweep_append {front text out : Text} (hfront : '&' ∉ front)
    (heq : sweep pattern new text = front ++ out) :
    ∃ rest, text = front ++ rest ∧ sweep pattern new rest = out := by
  induction front generalizing text with
  | nil => exact ⟨text, rfl, heq⟩
  | cons c front ih =>
    obtain ⟨hc, hfront⟩ := not_or.mp (mt List.mem_cons.mpr hfront)
    have hhead := h.head?_sweep text
    rw [heq] at hhead
    obtain ⟨text, rfl⟩ := List.head?_eq_some_iff.mp hhead.symm
    have hswept := h.sweep_append (mt List.mem_singleton.mp hc) text
    rw [List.singleton_append, heq] at hswept
    obtain ⟨rest, rfl, hrest⟩ := ih hfront (List.cons.inj hswept).2.symm
    exact ⟨rest, rfl, hrest⟩

end PoolSweep

theorem statePool_poolDeref {text : Text} (htwice : Lacks (Text.spell "**pool") text)
    (hstate : Lacks (Text.spell "*state.pool") text) :
    PoolSweep.sweep Form.statePool.pattern (Text.spell "*pool")
      (PoolSweep.sweep Form.poolDeref.pattern (Text.spell "*state.pool") text) = text := by
  induction hn : text.length using Nat.strongRecOn generalizing text with
  | ind n ih =>
    by_cases hmark : '&' ∈ text
    · obtain ⟨front, more, rfl, hfront⟩ := List.eq_append_cons_of_mem hmark
      have hlength : more.length < n := by
        rw [← hn, List.length_append, List.length_cons]
        omega
      rw [poolDeref_sweep.sweep_append hfront, statePool_sweep.sweep_append hfront]
      refine congrArg (front ++ ·) ?_
      rcases PoolSweep.stalk_or_other [Text.spell "*pool", Text.spell "**pool"] more with
        ⟨stalk, hstalk, rest, rfl, hrest⟩ | hother
      · have hswept := (congrArg Text.wordy (poolDeref_sweep.head?_sweep rest)).trans hrest
        have honce : stalk = Text.spell "*pool" := by
          simp only [List.mem_cons, List.not_mem_nil, or_false] at hstalk
          refine hstalk.resolve_right fun htwo => ?_
          rw [htwice front rest (by rw [htwo])] at hrest
          cases hrest
        have hbehind {other : Text} (hlacks : Lacks other (front ++ '&' :: (stalk ++ rest))) :
            Lacks other rest := by
          refine @Lacks.behind other (front ++ '&' :: stalk) rest ?_
          simpa using hlacks
        have hshort : rest.length < n := by
          rw [List.length_append] at hlength
          omega
        rw [poolDeref_sweep.sweep_stalk hstalk hrest,
          statePool_sweep.sweep_stalk List.mem_cons_self hswept,
          ih _ hshort (hbehind htwice) (hbehind hstate) rfl, honce]
      · have hbehind {other : Text} (hlacks : Lacks other (front ++ '&' :: more)) :
            Lacks other more := by
          refine @Lacks.behind other (front ++ ['&']) more ?_
          simpa using hlacks
        rw [poolDeref_sweep.sweep_other hother, statePool_sweep.sweep_other,
          ih _ hlength (hbehind htwice) (hbehind hstate) rfl]
        intro stalk hstalk out heq
        rw [List.mem_singleton.mp hstalk] at heq
        obtain ⟨rest, rfl, rfl⟩ := poolDeref_sweep.of_sweep_append (by decide) heq
        rw [poolDeref_sweep.head?_sweep]
        exact hstate front rest rfl
    · rw [poolDeref_sweep.sweep_unmarked hmark, statePool_sweep.sweep_unmarked hmark]

def unroute (prev : Option Char) (text : Text) : Text :=
  Form.stateAuth.pattern.rewriteFrom (fun _ => bareAccess) 0 prev text

theorem stateAuth_wordLed : WordLed Form.stateAuth.pattern where
  edge hreads := (reads_stateAuth.mp hreads).1
  head hreads := by
    rw [(reads_stateAuth.mp hreads).2]
    decide

section

variable {prev : Option Char} {name text rest : Text}

theorem authAccess_of_stateAuth (h : Form.stateAuth.pattern.Reads prev text rest) :
    Form.authAccess.pattern.Reads prev text rest := by
  obtain ⟨hprev, rfl⟩ := reads_stateAuth.mp h
  exact reads_authAccess.mpr ⟨hprev, .inr ⟨_, isName_state, rfl⟩⟩

theorem unroute_state (hprev : Text.wordy prev = false) (rest : Text) :
    unroute prev (Text.spell "state" ++ (heldAccess ++ rest)) =
      bareAccess ++ unroute (some '.') rest := by
  have hreads : Form.stateAuth.pattern.Reads prev (Text.spell "state" ++ heldAccess) rest :=
    reads_stateAuth.mpr ⟨hprev, rfl⟩
  have hwidth := width?_of_reads hreads fun found more _ hfound => by
    rw [(reads_stateAuth.mp hfound).2]
  exact rewriteFrom_of_width? (by decide) hwidth

theorem unroute_name (hname : IsName name) (hother : name ≠ Text.spell "state")
    (htext : Text.wordy text.head? = false) :
    unroute prev (name ++ text) = name ++ unroute (Text.lastFrom prev name) text := by
  refine stateAuth_wordLed.rewriteFrom_name hname ?_
  refine width?_eq_none_iff_reads.mpr fun found more heq hreads => hother ?_
  rw [(reads_stateAuth.mp hreads).2, List.append_assoc] at heq
  exact (word_inj hname.word isName_state.word htext (wordy_heldAccess more) heq).1

theorem unroute_held (hname : IsName name) (hother : name ≠ Text.spell "state") (rest : Text) :
    unroute prev (name ++ (heldAccess ++ rest)) =
      name ++ (heldAccess ++ unroute (some '.') rest) := by
  have hauth : IsName (Text.spell "auth") := ⟨by decide, auth_word⟩
  have hdot (prev : Option Char) (text : Text) :
      unroute prev ('.' :: text) = '.' :: unroute (some '.') text :=
    stateAuth_wordLed.rewriteFrom_cons (.inr (by decide)) text
  have hheld (text : Text) : heldAccess ++ text = '.' :: (Text.spell "auth" ++ '.' :: text) := rfl
  rw [unroute_name hname hother (wordy_heldAccess rest), hheld, hdot,
    unroute_name hauth (by decide) (wordy_dot rest), hdot, hheld]

/-- Taking the shared state off routed accesses gives a text back that did not reach auth through it. -/
theorem unroute_route (h : Form.stateAuth.pattern.occurs prev text = false) :
    unroute prev (route prev text) = text := by
  induction prev, text using first_induction Form.authAccess.consumes with
  | quiet prev text hquiet =>
    rw [route, rewriteFrom_of_not_occurs hquiet, unroute, rewriteFrom_of_not_occurs h]
  | first prev text before found after hfirst hne ih =>
    obtain ⟨hprev, name, hname, hroute, hshape⟩ := routeAuth_reads hfirst.reads
    have hlast : Text.lastFrom prev (before ++ found) = some '.' := by
      rw [Text.lastFrom_append]
      rcases hshape with ⟨rfl, -⟩ | rfl
      · rfl
      · rw [Text.lastFrom_append]
        rfl
    have hafter : unroute (some '.') (route (some '.') after) = after := by
      rw [← hlast]
      refine ih (Bool.eq_false_iff.mpr fun hyes => Bool.eq_false_iff.mp h ?_)
      rw [occurs_iff_within] at hyes ⊢
      rw [hfirst.split, ← List.append_assoc]
      exact Within.append_right hyes
    have hrouted : route prev text =
        before ++ (name ++ (heldAccess ++ route (some '.') after)) := by
      rw [route, hfirst.rewriteFrom hne, hroute, hlast, List.append_assoc]
      rfl
    -- no access begins before the first one, so none is taken off there
    have hskip : unroute prev (route prev text) =
        before ++ unroute (Text.lastFrom prev before)
          (name ++ (heldAccess ++ route (some '.') after)) := by
      have hearlier := (first_routed hfirst (route (some '.') after)).earlier
      rw [hroute, List.append_assoc] at hearlier
      rw [hrouted]
      refine rewriteFrom_skip fun left right heq hright => ?_
      refine width?_eq_none_iff_reads.mpr fun first more hcut hreads => ?_
      exact width?_eq_none_iff_reads.mp (hearlier left right heq hright) first more hcut
        (authAccess_of_stateAuth hreads)
    rw [hskip, hfirst.split]
    refine congrArg (before ++ ·) ?_
    rcases hshape with ⟨rfl, rfl⟩ | rfl
    · rw [unroute_state hprev, hafter]
    · have hother : name ≠ Text.spell "state" := by
        rintro rfl
        refine Bool.eq_false_iff.mp h ((occurs_iff _ _ _).mpr ⟨before, _, after, hfirst.split, ?_⟩)
        exact reads_stateAuth.mpr ⟨hprev, rfl⟩
      rw [unroute_held hname hother, hafter, List.append_assoc]

end

theorem poolDirect_apply (text : Text) : poolDirect.apply text =
    PoolSweep.sweep Form.statePool.pattern (Text.spell "*pool") text := by
  rw [Form.statePool.apply_rewrite rfl poolDirect_action (by decide) rfl, Replacement.acts_template]
  rfl

theorem authDirect_apply (text : Text) : authDirect.apply text = unroute none text :=
  Form.stateAuth.apply_rewrite rfl authDirect_action (by decide) rfl

/-- Routing auth makes no pool behind an ampersand, in whatever way it is written. -/
theorem not_occurs_authViaState {form : Form} {fixed text : Text} (he : form.pattern.edged = true)
    (hbegins : form.pattern.Begins fixed)
    (hclears : fixed.clears (Text.spell "state" ++ heldAccess) = true)
    (hfound : ∀ {prev found rest}, form.pattern.Reads prev found rest →
      (Text.spell "state" ++ heldAccess).clears found.tail = true)
    (h : form.pattern.occurs none text = false) :
    form.pattern.occurs none (authViaState.apply text) = false := by
  refine (patched_authViaState text).not_occurs (fun hpatch => ?_) h
  cases hpatch
  exact ⟨⟨by decide, stops_of_clears hfound, hbegins.quiet hclears⟩,
    blind_of_edged form.settled he (by decide)⟩

theorem reads_poolDouble {prev : Option Char} {rest : Text} (h : Text.wordy rest.head? = false) :
    Form.poolDouble.pattern.Reads prev ('&' :: Text.spell "**pool") rest := by
  have hpattern : Form.poolDouble.pattern =
      lit (Text.spell "&**") (lit (Text.spell "pool") Form.wordEdge) :=
    rfl
  rw [hpattern]
  exact reads_lit.mpr ⟨Text.spell "pool", rfl, isName_pool.reads_iff.mpr ⟨rfl, h⟩⟩

/-- A text without doubly dereferenced pools and without accesses through the shared state comes back
when the pool and auth are reached through the shared state and then directly again. -/
theorem access_through_state_and_back (text : Text)
    (htwice : (Matcher.regex (.ofText Form.poolDouble.source)).isMatch text = false)
    (hpool : poolDirect.matcher.isMatch text = false)
    (hauth : authDirect.matcher.isMatch text = false) :
    authDirect.apply (poolDirect.apply (authViaState.apply (poolViaState.apply text))) = text := by
  have hdouble : Form.poolDouble.pattern.occurs none (authViaState.apply text) = false := by
    refine not_occurs_authViaState (by decide) begins_lit (by decide) (fun hreads => ?_)
      ((Form.poolDouble.isMatch text).symm.trans htwice)
    rw [Form.poolDouble_reads hreads]
    decide
  have hstate : Form.statePool.pattern.occurs none (authViaState.apply text) = false := by
    refine not_occurs_authViaState (by decide) begins_lit (by decide) (fun hreads => ?_)
      ((Form.statePool.isMatch text).symm.trans hpool)
    rw [found_statePool hreads]
    decide
  have hback : poolDirect.apply (poolViaState.apply (authViaState.apply text)) =
      authViaState.apply text := by
    rw [poolViaState_apply, poolDirect_apply]
    exact statePool_poolDeref (lacks_of_not_occurs reads_poolDouble hdouble)
      (lacks_of_not_occurs
        (fun hrest => reads_statePool.mpr ⟨⟨_, List.mem_cons_self, rfl⟩, hrest⟩) hstate)
  rw [← poolViaState_authViaState, hback, authViaState_apply, authDirect_apply]
  exact unroute_route ((Form.stateAuth.isMatch text).symm.trans hauth)

/-- A call with the pool on the auth of a request, and one that is already routed by another name. -/
theorem access_through_state_and_back_call :
    ((Matcher.regex (.ofText Form.poolDouble.source)).isMatch (Text.spell "auth.f(&*pool, x.auth.y)") =
        false ∧
      poolDirect.matcher.isMatch (Text.spell "auth.f(&*pool, x.auth.y)") = false ∧
      authDirect.matcher.isMatch (Text.spell "auth.f(&*pool, x.auth.y)") = false) ∧
    authDirect.apply (poolDirect.apply (authViaState.apply (poolViaState.apply
      (Text.spell "auth.f(&*pool, x.auth.y)")))) = Text.spell "auth.f(&*pool, x.auth.y)" := by
  have htwice : (Matcher.regex (.ofText Form.poolDouble.source)).isMatch
      (Text.spell "auth.f(&*pool, x.auth.y)") = false := by
    decide +kernel
  have hpool : poolDirect.matcher.isMatch (Text.spell "auth.f(&*pool, x.auth.y)") = false := by
    decide +kernel
  have hauth : authDirect.matcher.isMatch (Text.spell "auth.f(&*pool, x.auth.y)") = false := by
    decide +kernel
  exact ⟨⟨htwice, hpool, hauth⟩, access_through_state_and_back _ htwice hpool hauth⟩

end Recast.Catalog
