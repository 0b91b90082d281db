import Recast.Proofs.Catalog.AccessRoundTrip

/-! The rules for the pool and the rules for auth may change places. Taking the shared state off auth
spares the pool just as routing auth through the state does: it works between two ampersands on its own,
and the only name that it uncovers is that of auth. -/

namespace Recast

namespace Pattern

/-- A pattern that cannot tell a mark from the end of the text rewrites the text before the mark on its
own. -/
theorem rewriteFrom_before_mark {pattern : Pattern} {new : Text → Text} {mark : Char} {more : Text}
    (hends : ∀ prev text, pattern.width? prev (text ++ mark :: more) = pattern.width? prev text)
    (text : Text) : ∀ (skip : Nat) (prev : Option Char), skip ≤ text.length →
    pattern.rewriteFrom new skip prev (text ++ mark :: more) =
      pattern.rewriteFrom new skip prev text ++
        pattern.rewriteFrom new 0 (Text.lastFrom prev text) (mark :: more) := by
  induction text with
  | nil =>
    intro skip prev hskip
    obtain rfl : skip = 0 := Nat.le_zero.mp hskip
    rfl
  | cons c text ih =>
    intro skip prev hskip
    cases skip with
    | succ skip => exact ih skip (some c) (Nat.le_of_succ_le_succ hskip)
    | zero =>
      have hwidth := hends prev (c :: text)
      rw [List.cons_append] at hwidth ⊢
      rw [rewriteFrom, hwidth, rewriteFrom]
      cases hw : pattern.width? prev (c :: text) with
      | none => exact congrArg (c :: ·) (ih 0 (some c) (Nat.zero_le _))
      | some n =>
        have hle := width?_le hw
        have htake : (c :: (text ++ mark :: more)).take n = (c :: text).take n :=
          List.take_append_of_le_length hle
        rw [List.length_cons] at hle
        simp only [htake, ih (n - 1) (some c) (by omega), List.append_assoc]
        rfl

end Pattern

namespace Catalog

open Pattern

section

variable {prev : Option Char} {name text out : Text}

theorem width?_stateAuth_eq_some_iff {n : Nat} :
    Form.stateAuth.pattern.width? prev text = some n ↔
      n = (Text.spell "state" ++ heldAccess).length ∧ Text.wordy prev = false ∧
        Text.spell "state" ++ heldAccess <+: text := by
  constructor
  · intro hn
    obtain ⟨hprev, hfound⟩ := reads_stateAuth.mp (reads_of_width? hn)
    have hlength := congrArg List.length hfound
    rw [List.length_take, Nat.min_eq_left (width?_le hn)] at hlength
    exact ⟨hlength, hprev, hfound ▸ List.take_prefix n text⟩
  · rintro ⟨rfl, hprev, rest, rfl⟩
    exact width?_of_reads (reads_stateAuth.mpr ⟨hprev, rfl⟩) fun found more _ hfound => by
      rw [(reads_stateAuth.mp hfound).2]

theorem bareAccess_wordy (more : Text) : Text.wordy (bareAccess ++ more).head? = true := by
  change Text.isWord 'a' = true
  decide

theorem unroute_unmarked (h : '&' ∉ text) : '&' ∉ unroute prev text := by
  have hbare : '&' ∉ bareAccess := by decide
  exact notin_rewriteFrom (fun _ _ => hbare) h 0 prev

theorem unroute_mark {c : Char} (hc : Text.isWord c = false) (prev : Option Char) (text : Text) :
    unroute prev (c :: text) = c :: unroute (some c) text :=
  stateAuth_wordLed.rewriteFrom_cons (.inr hc) text

theorem unroute_before_ampersand (prev : Option Char) (text more : Text) :
    unroute prev (text ++ '&' :: more) = unroute prev text ++ '&' :: unroute (some '&') more := by
  have hfixed : '&' ∉ Text.spell "state" ++ heldAccess := by decide
  have hends (prev : Option Char) (text : Text) :
      Form.stateAuth.pattern.width? prev (text ++ '&' :: more) =
        Form.stateAuth.pattern.width? prev text := by
    refine Option.ext fun n => ?_
    rw [width?_stateAuth_eq_some_iff, width?_stateAuth_eq_some_iff]
    refine and_congr_right fun _ => and_congr_right fun _ => ⟨?_, fun hp => hp.trans ?_⟩
    · rintro ⟨rest, heq⟩
      exact Text.prefix_of_notin hfixed heq
    · exact List.prefix_append text _
  refine (rewriteFrom_before_mark hends text 0 prev (Nat.zero_le _)).trans ?_
  exact congrArg (unroute prev text ++ ·) (unroute_mark (by decide) _ more)

theorem unroute_state_pool (prev : Option Char) (text : Text) :
    unroute prev (Text.spell "state.pool" ++ text) =
      Text.spell "state" ++ ('.' :: unroute (some '.') (Text.spell "pool" ++ text)) := by
  have hnone : Form.stateAuth.pattern.width? prev
      (Text.spell "state" ++ ('.' :: (Text.spell "pool" ++ text))) = none := by
    refine Option.eq_none_iff_forall_ne_some.mpr fun n hn => ?_
    obtain ⟨-, -, hprefix⟩ := width?_stateAuth_eq_some_iff.mp hn
    exact not_held_pool text ((List.prefix_append_right_inj _).mp hprefix)
  rw [spell_state_pool, unroute, stateAuth_wordLed.rewriteFrom_name isName_state hnone]
  exact congrArg (_ ++ ·) (unroute_mark (by decide) _ _)

/-- A name that stands first when the state is taken off stood first before, unless it is that of
auth. -/
theorem of_unroute_name (hname : IsName name) (hother : name ≠ Text.spell "auth")
    (hout : Text.wordy out.head? = false) (heq : unroute prev text = name ++ out) :
    ∃ rest, text = name ++ rest ∧ Text.wordy rest.head? = false ∧
      unroute (Text.lastFrom prev name) rest = out := by
  by_cases hfirst : Text.wordy prev = false ∧ Text.spell "state" ++ heldAccess <+: text
  · obtain ⟨hprev, rest, rfl⟩ := hfirst
    rw [List.append_assoc, unroute_state hprev] at heq
    have hbare : bareAccess ++ unroute (some '.') rest =
        Text.spell "auth" ++ ('.' :: unroute (some '.') rest) := rfl
    rw [hbare] at heq
    exact absurd (word_inj hname.word auth_word hout (wordy_dot _) heq.symm).1 hother
  · have hwidth : Form.stateAuth.pattern.width? prev text = none :=
      Option.eq_none_iff_forall_ne_some.mpr fun n hn =>
        hfirst (width?_stateAuth_eq_some_iff.mp hn).2
    exact stateAuth_wordLed.of_rewriteFrom_name hname hout hwidth heq

theorem of_unroute_mark {c : Char} (hc : Text.isWord c = false) (heq : unroute prev text = c :: out) :
    ∃ rest, text = c :: rest ∧ unroute (some c) rest = out := by
  exact of_rewriteFrom_mark (fun _ more => bareAccess_wordy more) hc heq

theorem of_unroute_pool (hout : Text.wordy out.head? = false)
    (heq : unroute prev text = Text.spell "pool" ++ out) :
    ∃ rest, text = Text.spell "pool" ++ rest ∧ Text.wordy rest.head? = false := by
  obtain ⟨rest, htext, hrest, -⟩ := of_unroute_name isName_pool (by decide) hout heq
  exact ⟨rest, htext, hrest⟩

theorem of_unroute_state_pool (hout : Text.wordy out.head? = false)
    (heq : unroute prev text = Text.spell "state.pool" ++ out) :
    ∃ rest, text = Text.spell "state.pool" ++ rest ∧ Text.wordy rest.head? = false := by
  rw [spell_state_pool] at heq
  obtain ⟨rest, rfl, -, hdot⟩ := of_unroute_name isName_state (by decide) (wordy_dot _) heq
  obtain ⟨more, rfl, hpool⟩ := of_unroute_mark (by decide) hdot
  obtain ⟨last, rfl, hlast⟩ := of_unroute_pool hout hpool
  exact ⟨last, rfl, hlast⟩

theorem unroute_pool (htext : Text.wordy text.head? = false) :
    ∃ out, Text.wordy out.head? = false ∧ ∀ prev, Text.wordy prev = false →
      unroute prev (Text.spell "pool" ++ text) = Text.spell "pool" ++ out := by
  refine ⟨unroute (some 'l') text, ?_, fun prev _ => unroute_name isName_pool (by decide) htext⟩
  rw [unroute, stateAuth_wordLed.head?_rewriteFrom (by decide)]
  exact htext

theorem unroute_keepsPool : KeepsPool unroute where
  mark := unroute_mark
  of_mark := of_unroute_mark
  pool := unroute_pool
  of_pool := of_unroute_pool
  state_pool := unroute_state_pool
  of_state_pool := of_unroute_state_pool

theorem unroute_sparesPool : SparesPool unroute where
  unmarked := unroute_unmarked
  fence prev text htext :=
    ⟨unroute prev text, unroute_unmarked htext, unroute_before_ampersand prev text⟩
  behind := unroute_keepsPool.behind
  exposed := unroute_keepsPool.exposed

end

theorem poolDirect_authDirect (text : Text) :
    poolDirect.apply (authDirect.apply text) = authDirect.apply (poolDirect.apply text) := by
  rw [poolDirect_apply, poolDirect_apply, authDirect_apply, authDirect_apply]
  exact statePool_sweep.comm unroute_sparesPool text none

/-- On either way, the rule for the pool and the rule for auth give the same text in both orders. -/
theorem access_rules_commute (text : Text) :
    authViaState.apply (poolViaState.apply text) = poolViaState.apply (authViaState.apply text) ∧
      authDirect.apply (poolDirect.apply text) = poolDirect.apply (authDirect.apply text) :=
  ⟨(poolViaState_authViaState text).symm, (poolDirect_authDirect text).symm⟩

end Catalog

end Recast
