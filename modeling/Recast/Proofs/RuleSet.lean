import Recast.Proofs.Pattern.Walls
import Recast.Proofs.Replacement
import Recast.RuleSet

/-! What a rule makes of a text, as a function of the text alone, and what a rule set makes of it as
the composition of its rules. A rule fires exactly when that function changes the text. -/

namespace Recast

namespace Matcher

theorem isMatch_regex {expr : Regex} {pattern : Pattern} (hp : expr.pattern = pattern)
    (hs : pattern.settled = true) (text : Text) :
    (regex expr).isMatch text = pattern.occurs none text := by
  subst hp
  rw [isMatch_eq, find?, Option.isSome_map, Pattern.find?_eq_leftmost? hs, Pattern.isSome_leftmost?]

theorem sweepFrom_literal {needle : Text} (hne : needle ≠ []) (text : Text) :
    ∀ (skip : Nat) (behind : Bool) (pos : Nat) (prev : Option Char),
      sweepFrom (literalProbe needle) skip behind pos prev text =
        ((Pattern.exactly needle).hitsFrom skip pos prev text).map (·.span) := by
  have hempty : needle.isEmpty = false := by simpa using hne
  have hlength : 0 < needle.length := List.length_pos_iff.mpr hne
  induction text with
  | nil =>
    intro skip behind pos prev
    cases skip with
    | zero => simp [sweepFrom, literalProbe, textProbe, Pattern.hitsFrom, hne]
    | succ skip => rfl
  | cons c rest ih =>
    intro skip behind pos prev
    cases skip with
    | succ skip => exact ih skip behind (pos + 1) (some c)
    | zero =>
      have hspan := Pattern.matchAt?_span (Pattern.exactly needle) pos prev (c :: rest)
      rw [Pattern.width?_exactly] at hspan
      rw [sweepFrom, literalProbe, textProbe, Pattern.hitsFrom, ← literalProbe, hempty]
      by_cases hbegins : needle.isPrefixOf (c :: rest) = true
      · rw [if_pos hbegins, Option.map_some] at hspan
        obtain ⟨hit, hhit, heq⟩ := Option.map_eq_some_iff.mp hspan
        have hlater : ¬ pos + needle.length ≤ pos := by omega
        simp only [hbegins, Bool.not_false, Bool.and_true, if_true, hlater, if_false, hhit,
          List.map_cons, heq, ih]
      · rw [if_neg hbegins, Option.map_none, Option.map_eq_none_iff] at hspan
        simp only [hbegins, Bool.not_false, Bool.true_and, Bool.and_true, hspan, ih]
        rfl

end Matcher

theorem Replaced.patched {patches : Text → Text → Prop} {f : Text → Text} {whole text out : Text}
    {pos : Nat} {spans : List Span} (h : Replaced f pos text spans out) : ∀ {front : Text},
      whole = front ++ text → pos = front.length →
        (∀ span ∈ spans, Patched patches (span.slice whole) (f (span.slice whole))) →
          Patched patches text out := by
  induction h with
  | rest => exact fun _ _ _ => .refl _
  | @span pos start stop spans after out gap covered hstart hstop more ih =>
    intro front hwhole hpos hpatch
    subst hpos hstart hstop
    have hcut : whole = (front ++ gap ++ covered) ++ after := by
      rw [hwhole]
      simp only [List.append_assoc]
    have hmore := ih hcut (by simp only [List.length_append])
      fun span hspan => hpatch span (List.mem_cons_of_mem _ hspan)
    have hslice : (Span.mk (front.length + gap.length)
        (front.length + gap.length + covered.length)).slice whole = covered := by
      rw [hcut, List.append_assoc, ← List.length_append]
      exact Span.slice_found (front ++ gap) covered after
    have hhere := hpatch _ List.mem_cons_self
    rw [hslice] at hhere
    exact .behind gap ((hmore.behind covered).trans (hhere.before out))

namespace Rule

theorem fire?_eq_none_iff (rule : Rule) (text : Text) :
    rule.fire? text = none ↔ rule.apply text = text := by
  rw [apply]
  constructor
  · intro h
    rw [h, Option.getD_none]
  · intro h
    cases hf : rule.fire? text with
    | none => rfl
    | some updated =>
      rw [hf, Option.getD_some] at h
      subst h
      unfold fire? at hf
      split at hf
      · have := (Option.filter_eq_some_iff.mp hf).2
        simp at this
      · cases hf

theorem fire?_eq (rule : Rule) (text : Text) :
    rule.fire? text = if rule.apply text = text then none else some (rule.apply text) := by
  split
  next h => exact (rule.fire?_eq_none_iff text).mpr h
  next h =>
    rw [apply] at h ⊢
    cases hf : rule.fire? text with
    | none => simp [hf] at h
    | some updated => rfl

theorem apply_of_guard_false {rule : Rule} {text : Text} (h : rule.guard.holds text = false) :
    rule.apply text = text := by
  simp [apply, fire?, h]

theorem getD_filter_ne (updated : Option Text) (text : Text) :
    (updated.filter (· != text)).getD text = updated.getD text := by
  cases updated with
  | none => rfl
  | some updated => by_cases hu : updated = text <;> simp [Option.filter, hu]

theorem apply_of_replace {rule : Rule} {new : Replacement} {scope : Scope} {text : Text}
    (ha : rule.action = .replace new scope) (hg : rule.guard.holds text = true) :
    rule.apply text = (rule.matcher.replace? new scope text).getD text := by
  rw [apply, fire?, if_pos hg, ha]
  exact getD_filter_ne _ _

theorem apply_of_insert {rule : Rule} {new : Text} {side : Side} {text : Text}
    (ha : rule.action = .insert new side) (hg : rule.guard.holds text = true) :
    rule.apply text = ((rule.matcher.find? text).map (insertAt text new side)).getD text := by
  rw [apply, fire?, if_pos hg, ha]
  exact getD_filter_ne _ _

theorem apply_rewrite {rule : Rule} {expr : Regex} {pattern : Pattern} {new : Replacement}
    {text : Text} (hm : rule.matcher = .regex expr) (ha : rule.action = .replace new .all)
    (hp : expr.pattern = pattern) (hs : pattern.settled = true) (hc : pattern.consumes = true)
    (hn : new.isPlain = true) (hg : rule.guard.holds text = true) :
    rule.apply text = pattern.rewrite new.acts text := by
  subst hp
  rw [apply_of_replace ha hg, hm, Matcher.getD_replace?_regex, Scope.pick_all,
    ← Pattern.splice_findAll hs hc]
  simp only [Pattern.editsBy, Replacement.fill_plain hn]

theorem apply_swept {rule : Rule} {expr : Regex} {pattern : Pattern} {new : Replacement}
    {text : Text} {allowed : Text → Text → Prop} (hm : rule.matcher = .regex expr)
    (ha : rule.action = .replace new .all) (hp : expr.pattern = pattern)
    (hs : pattern.settled = true) (hc : pattern.consumes = true)
    (hg : rule.guard.holds text = true)
    (h : ∀ {front found after hit}, text = front ++ (found ++ after) →
      pattern.matchAt? ⟨front.length, Text.lastFrom none front, found ++ after⟩ = some hit →
        hit.span = ⟨front.length, front.length + found.length⟩ →
          allowed found (new.fill expr hit text)) :
    Swept pattern allowed none text (rule.apply text) := by
  subst hp
  have hswept : Swept expr.pattern allowed none text (splice text
      ((expr.pattern.hitsFrom 0 0 none text).map fun hit =>
        (hit.span, new.fill expr hit text))) :=
    Pattern.swept_hits hc h (List.nil_append text).symm
  rw [apply_of_replace ha hg, hm, Matcher.getD_replace?_regex, Scope.pick_all,
    Pattern.findAll_eq_hitsFrom hs hc]
  exact hswept

theorem swept_literal {rule : Rule} {needle new text : Text} (hne : needle ≠ [])
    (hc : (Pattern.exactly needle).consumes = true) (hm : rule.matcher = .literal needle)
    (ha : rule.action = .replace (.template new) .all) (hg : rule.guard.holds text = true) :
    Swept (Pattern.exactly needle) (fun found fresh => found = needle ∧ fresh = new) none text
      (rule.apply text) := by
  have hspans : rule.matcher.spans text =
      ((Pattern.exactly needle).hitsFrom 0 0 none text).map (·.span) := by
    rw [hm]
    exact Matcher.sweepFrom_literal hne text 0 false 0 none
  have hregex : rule.matcher.isRegex = true → (Replacement.template new).isPlain = true := by
    intro hregex
    rw [hm] at hregex
    cases hregex
  have hout : rule.apply text = spliceFrom 0 text
      (((Pattern.exactly needle).hitsFrom 0 0 none text).map fun hit => (hit.span, new)) := by
    rw [apply_of_replace ha hg, Matcher.getD_replace?_of_spans hregex, Scope.pick_all, hspans,
      Replacement.edits, List.map_map]
    rfl
  rw [hout]
  refine Pattern.swept_hits hc ?_ (List.nil_append text).symm
  intro front found after hit _ hhit hspan
  exact ⟨Pattern.reads_exactly.mp (Pattern.reads_of_hit hhit hspan), rfl⟩

theorem apply_insertAfter {rule : Rule} {expr : Regex} {pattern : Pattern} {new text : Text}
    {before found after : Text} (hm : rule.matcher = .regex expr)
    (ha : rule.action = .insert new .after) (hp : expr.pattern = pattern)
    (hs : pattern.settled = true) (hg : rule.guard.holds text = true)
    (hf : pattern.First none text before found after) :
    rule.apply text = before ++ found ++ new ++ after := by
  subst hp
  have hspan := hf.leftmost? 0
  rw [apply_of_insert ha hg, hm]
  simp only [Matcher.find?, Pattern.find?_eq_leftmost? hs, hspan, Nat.zero_add, Option.map_some,
    Option.getD_some, insertAt]
  rw [hf.split, ← List.append_assoc, ← List.length_append, List.take_left, List.drop_left]

theorem apply_firstMatch {rule : Rule} {expr : Regex} {pattern : Pattern} {template text : Text}
    {before found after : Text} (hm : rule.matcher = .regex expr)
    (ha : rule.action = .replace (.template template) .first) (hp : expr.pattern = pattern)
    (hs : pattern.settled = true) (hc : pattern.consumes = true) (hne : found ≠ [])
    (hg : rule.guard.holds text = true) (hf : pattern.First none text before found after) :
    ∃ hit, pattern.matchAt? ⟨before.length, Text.lastFrom none before, found ++ after⟩ = some hit ∧
      rule.apply text = before ++ (Template.expand expr template hit text ++ after) := by
  subst hp
  obtain ⟨hit, hhits, hhit, hspan⟩ := hf.hitsFrom hne 0
  rw [Nat.zero_add] at hhit hspan
  refine ⟨hit, hhit, ?_⟩
  have hsplit := hf.split
  rw [apply_of_replace ha hg, hm]
  simp only [Matcher.getD_replace?_regex, Scope.pick_first, Replacement.fill,
    Pattern.findAll_eq_hitsFrom hs hc, hhits, List.map_cons, List.map_nil, List.take_succ_cons,
    List.take_zero, splice, spliceFrom, hspan, Nat.sub_zero]
  generalize Template.expand expr template hit text = filled
  rw [hsplit, List.take_left, ← List.drop_drop, List.drop_left, List.drop_left,
    List.append_assoc]

theorem apply_of_not_occurs {rule : Rule} {expr : Regex} {pattern : Pattern} {text : Text}
    (hm : rule.matcher = .regex expr) (hp : expr.pattern = pattern)
    (hs : pattern.settled = true) (hc : pattern.consumes = true)
    (h : pattern.occurs none text = false) : rule.apply text = text := by
  subst hp
  have hfind : expr.pattern.find? text = none := by
    rw [Pattern.find?_eq_leftmost? hs, ← Option.not_isSome_iff_eq_none,
      Pattern.isSome_leftmost?, h]
    simp
  have hall : expr.pattern.findAll text = [] := by
    rw [Pattern.findAll_eq_hitsFrom hs hc, Pattern.hitsFrom_eq_nil h]
  by_cases hg : rule.guard.holds text = true
  · cases ha : rule.action with
    | replace new scope =>
      have hspans : (Matcher.regex expr).spans text = [] := by rw [Matcher.spans, hall, List.map_nil]
      rw [apply_of_replace ha hg, hm, (Matcher.replace?_eq_none_iff _ new scope text).mpr hspans,
        Option.getD_none]
    | insert new side =>
      rw [apply_of_insert ha hg, hm]
      simp [Matcher.find?, hfind]
  · exact apply_of_guard_false (by simpa using hg)

end Rule

theorem Applied.step_eq (sofar : Applied) (rule : Rule) :
    sofar.step rule =
      if rule.apply sofar.content = sofar.content then sofar
      else ⟨rule.apply sofar.content, sofar.fired ++ [rule.name]⟩ := by
  rw [step, Rule.fire?_eq]
  by_cases h : rule.apply sofar.content = sofar.content <;> simp [h]

theorem Applied.step_content (sofar : Applied) (rule : Rule) :
    (sofar.step rule).content = rule.apply sofar.content := by
  rw [step_eq]
  split
  next h => exact h.symm
  next => rfl

namespace RuleSet

def throughAll (rules : List Rule) (text : Text) : Text :=
  rules.foldl (fun text rule => rule.apply text) text

theorem throughAll_append (first second : List Rule) (text : Text) :
    throughAll (first ++ second) text = throughAll second (throughAll first text) :=
  List.foldl_append

theorem throughAll_of_quiet {rules : List Rule} {text : Text}
    (h : ∀ rule ∈ rules, rule.apply text = text) : throughAll rules text = text := by
  induction rules with
  | nil => rfl
  | cons rule rules ih =>
    rw [throughAll, List.foldl_cons, h rule List.mem_cons_self]
    exact ih fun rule hr => h rule (List.mem_cons_of_mem _ hr)

theorem foldl_step_content (rules : List Rule) (sofar : Applied) :
    (rules.foldl Applied.step sofar).content = throughAll rules sofar.content := by
  induction rules generalizing sofar with
  | nil => rfl
  | cons rule rules ih =>
    rw [List.foldl_cons, ih, Applied.step_content]
    rfl

theorem apply_content (set : RuleSet) (text : Text) :
    (set.apply text).content = throughAll set.rules text :=
  foldl_step_content set.rules ⟨text, []⟩

theorem foldl_step_quiet {rules : List Rule} {sofar : Applied}
    (h : ∀ rule ∈ rules, rule.apply sofar.content = sofar.content) :
    rules.foldl Applied.step sofar = sofar := by
  induction rules with
  | nil => rfl
  | cons rule rules ih =>
    have hfirst : sofar.step rule = sofar := by
      rw [Applied.step_eq, if_pos (h rule List.mem_cons_self)]
    rw [List.foldl_cons, hfirst]
    exact ih fun rule hr => h rule (List.mem_cons_of_mem _ hr)

theorem le_foldl_step_fired (rules : List Rule) (sofar : Applied) :
    sofar.fired <+: (rules.foldl Applied.step sofar).fired := by
  induction rules generalizing sofar with
  | nil => exact List.prefix_refl _
  | cons rule rules ih =>
    refine List.IsPrefix.trans ?_ (ih (sofar.step rule))
    rw [Applied.step_eq]
    split
    · exact List.prefix_refl _
    · exact List.prefix_append _ _

/-- A rule set leaves a text alone exactly when every rule of it does. -/
theorem apply_eq_self_iff (set : RuleSet) (text : Text) :
    set.apply text = ⟨text, []⟩ ↔ ∀ rule ∈ set.rules, rule.apply text = text := by
  constructor
  · intro h
    have main (rules : List Rule) : rules.foldl Applied.step ⟨text, []⟩ = ⟨text, []⟩ →
        ∀ rule ∈ rules, rule.apply text = text := by
      induction rules with
      | nil => simp
      | cons rule rules ih =>
        intro h
        rw [List.foldl_cons, Applied.step_eq] at h
        by_cases hr : rule.apply text = text
        · rw [if_pos hr] at h
          intro other ho
          rcases List.mem_cons.mp ho with rfl | ho
          · exact hr
          · exact ih h other ho
        · rw [if_neg hr] at h
          have hle := le_foldl_step_fired rules ⟨rule.apply text, [] ++ [rule.name]⟩
          rw [h] at hle
          simp at hle
    exact main set.rules h
  · intro h
    exact foldl_step_quiet h

/-- Applying the rules to what they gave changes nothing more. -/
def Idempotent (set : RuleSet) : Prop :=
  ∀ text, (set.apply (set.apply text).content).content = (set.apply text).content

/-- No rule fires on what the rules gave. -/
def Settles (set : RuleSet) : Prop :=
  ∀ text, set.apply (set.apply text).content = ⟨(set.apply text).content, []⟩

/-- Rules settle if each of them comes to rest on what it gives, and none of them ends the rest of
another one. -/
theorem settles_of_rests {set : RuleSet} (steps : List (Rule × (Text → Prop)))
    (hset : set.rules = steps.map (·.1))
    (hquiet : ∀ step ∈ steps, ∀ text, step.2 text → step.1.apply text = text)
    (hself : ∀ step ∈ steps, ∀ text, step.2 (step.1.apply text))
    (hkeep : ∀ step ∈ steps, ∀ other ∈ steps, ∀ text, step.2 text → step.2 (other.1.apply text)) :
    set.Settles := by
  have main (more : List (Rule × (Text → Prop))) (hmore : ∀ other ∈ more, other ∈ steps) :
      ∀ text, ∀ step ∈ steps, step ∈ more ∨ step.2 text →
        step.2 (throughAll (more.map (·.1)) text) := by
    induction more with
    | nil =>
      intro text step hs hrest
      exact hrest.resolve_left (by simp)
    | cons other more ih =>
      intro text step hs hrest
      have hother := hmore other List.mem_cons_self
      refine ih (fun step hs => hmore step (List.mem_cons_of_mem _ hs)) _ step hs ?_
      rcases hrest with hrest | hrest
      · rcases List.mem_cons.mp hrest with rfl | hrest
        · exact .inr (hself step hs text)
        · exact .inl hrest
      · exact .inr (hkeep step hs other hother text hrest)
  intro text
  rw [apply_eq_self_iff, apply_content, hset]
  intro rule hr
  obtain ⟨step, hs, rfl⟩ := List.mem_map.mp hr
  exact hquiet step hs _ (main steps (fun _ h => h) text step hs (.inl hs))

theorem apply_of_not_fired {set : RuleSet} {before after : List Rule} {rule : Rule} {text : Text}
    (hr : set.rules = before ++ rule :: after) (h : rule.name ∉ (set.apply text).fired) :
    rule.apply (throughAll before text) = throughAll before text := by
  refine Decidable.byContradiction fun hne => h ?_
  have hstep : ((before.foldl Applied.step ⟨text, []⟩).step rule).fired =
      (before.foldl Applied.step ⟨text, []⟩).fired ++ [rule.name] := by
    rw [Applied.step_eq, foldl_step_content, if_neg hne]
  have hle := le_foldl_step_fired after ((before.foldl Applied.step ⟨text, []⟩).step rule)
  rw [apply, hr, List.foldl_append, List.foldl_cons]
  exact hle.subset (by rw [hstep]; simp)

end RuleSet

end Recast
