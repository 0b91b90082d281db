import Recast.Proofs.RuleSet
import Recast.Proofs.Text

/-! Rules that come to rest after they fired once. Such a rule may stand several times in a row in a
rule set: only the first of them can fire. An insertion is of this kind if its own guard does not hold
of a text with what it inserts. -/

namespace Recast

namespace Rule

/-- The rule does not fire on what it gave when it fired. -/
def OneShot (rule : Rule) : Prop :=
  ∀ text out, rule.fire? text = some out → rule.fire? out = none

variable {rule : Rule}

theorem oneShot_iff : rule.OneShot ↔ ∀ text, rule.apply (rule.apply text) = rule.apply text := by
  constructor
  · intro h text
    cases hf : rule.fire? text with
    | none =>
      have hsame := (rule.fire?_eq_none_iff text).mp hf
      rw [hsame, hsame]
    | some out =>
      have happly : rule.apply text = out := by rw [apply, hf, Option.getD_some]
      rw [happly]
      exact (rule.fire?_eq_none_iff out).mp (h text out hf)
  · intro h text out hf
    have happly : rule.apply text = out := by rw [apply, hf, Option.getD_some]
    rw [← happly]
    exact (rule.fire?_eq_none_iff _).mpr (h text)

theorem oneShot_of_guard
    (h : ∀ text, rule.apply text = text ∨ rule.guard.holds (rule.apply text) = false) :
    rule.OneShot := by
  refine oneShot_iff.mpr fun text => ?_
  rcases h text with hsame | hguard
  · rw [hsame, hsame]
  · exact apply_of_guard_false hguard

theorem apply_insert_cases {new : Text} {side : Side} (ha : rule.action = .insert new side)
    (text : Text) :
    rule.apply text = text ∨
      ∃ front back, text = front ++ back ∧ rule.apply text = front ++ (new ++ back) := by
  by_cases hg : rule.guard.holds text = true
  · rw [apply_of_insert ha hg]
    cases rule.matcher.find? text with
    | none => exact .inl rfl
    | some span =>
      rw [Option.map_some, Option.getD_some, insertAt.eq_def]
      exact .inr ⟨_, _, (List.take_append_drop _ text).symm, List.append_assoc _ _ _⟩
  · exact .inl (apply_of_guard_false (by simpa using hg))

/-- An insertion fires once if its guard asks for a text without a marker that it inserts. -/
theorem oneShot_of_marker {new : Text} {side : Side} (marker : Text)
    (ha : rule.action = .insert new side) (hnew : marker.within new = true)
    (hg : ∀ text, marker.within text = true → rule.guard.holds text = false) : rule.OneShot := by
  refine oneShot_of_guard fun text => ?_
  rcases apply_insert_cases ha text with hsame | ⟨front, back, -, happly⟩
  · exact .inl hsame
  · refine .inr (hg _ ?_)
    rw [happly]
    exact Text.within_append_right (Text.within_append_left hnew back) front

end Rule

namespace RuleSet

/-- The names of those rules that fire when a list of rules is applied to a text. -/
def firedBy (rules : List Rule) (text : Text) : List String :=
  (rules.foldl Applied.step ⟨text, []⟩).fired

theorem foldl_step_fired (rules : List Rule) (sofar : Applied) :
    (rules.foldl Applied.step sofar).fired = sofar.fired ++ firedBy rules sofar.content := by
  induction rules generalizing sofar with
  | nil => exact (List.append_nil _).symm
  | cons rule rules ih =>
    have hstep : (sofar.step rule).fired =
        sofar.fired ++ ((Applied.mk sofar.content []).step rule).fired := by
      rw [Applied.step_eq, Applied.step_eq]
      split <;> simp
    have hcontent : ((Applied.mk sofar.content []).step rule).content =
        (sofar.step rule).content := by
      rw [Applied.step_content, Applied.step_content]
    rw [List.foldl_cons, ih, hstep, List.append_assoc, firedBy.eq_def (rule :: rules),
      List.foldl_cons, ih, hcontent]

theorem firedBy_append (first second : List Rule) (text : Text) :
    firedBy (first ++ second) text = firedBy first text ++ firedBy second (throughAll first text) := by
  rw [firedBy, List.foldl_append, foldl_step_fired, foldl_step_content]
  rfl

theorem firedBy_quiet {rules : List Rule} {text : Text}
    (h : ∀ rule ∈ rules, rule.apply text = text) : firedBy rules text = [] := by
  have hquiet : rules.foldl Applied.step ⟨text, []⟩ = ⟨text, []⟩ := foldl_step_quiet h
  rw [firedBy, hquiet]

theorem firedBy_cons (rule : Rule) (rules : List Rule) (text : Text) :
    firedBy (rule :: rules) text =
      (if rule.apply text = text then [] else [rule.name]) ++ firedBy rules (rule.apply text) := by
  rw [firedBy, List.foldl_cons, foldl_step_fired, Applied.step_content, Applied.step_eq]
  split <;> rfl

/-- However often a rule that fires once is repeated, it fires at most once in a row. -/
theorem firedBy_replicate {rule : Rule} (h : rule.OneShot) (n : Nat) (text : Text) :
    firedBy (List.replicate n rule) text = [] ∨
      firedBy (List.replicate n rule) text = [rule.name] := by
  cases n with
  | zero => exact .inl rfl
  | succ n =>
    have hrest : firedBy (List.replicate n rule) (rule.apply text) = [] := by
      refine firedBy_quiet fun other hother => ?_
      rw [List.eq_of_mem_replicate hother]
      exact Rule.oneShot_iff.mp h text
    rw [List.replicate_succ, firedBy_cons, hrest, List.append_nil]
    split
    · exact .inl rfl
    · exact .inr rfl

/-- A rule that fires once adds at most one name to those that fire when it is repeated in a set. -/
theorem fired_of_repeated {rule : Rule} (h : rule.OneShot) {set : RuleSet} {before after : List Rule}
    {n : Nat} (hset : set.rules = before ++ (List.replicate n rule ++ after)) (text : Text) :
    ∃ names, (names = [] ∨ names = [rule.name]) ∧
      (set.apply text).fired = firedBy before text ++ (names ++
        firedBy after (throughAll (before ++ List.replicate n rule) text)) := by
  refine ⟨firedBy (List.replicate n rule) (throughAll before text), firedBy_replicate h n _, ?_⟩
  have hfired : (set.apply text).fired = firedBy set.rules text := rfl
  rw [hfired, hset, firedBy_append, firedBy_append, throughAll_append]

end RuleSet

end Recast
