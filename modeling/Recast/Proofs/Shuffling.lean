import Mathlib.Data.List.Nodup
import Recast.Proofs.RuleSet

/-! Rule sets whose rules may be shuffled. A rule names the rules that it has to follow, and an order is
accepted if every rule follows those that it names. Any two accepted orders of rules with distinct
names are connected by exchanging neighbours that do not name each other, so the order makes no
difference if such rules commute. -/

namespace Recast

namespace Rule

variable {rule : Rule} {rules before after : List Rule} {earlier known : List String}

theorem fault?_eq_none_iff :
    rule.fault? earlier = none ↔
      (rule.action.isInsert && rule.guard.isAlways) = false ∧
        ∀ name ∈ rule.after, name ∈ earlier := by
  rw [fault?]
  split
  next h => simp [h]
  next h => simp [Bool.eq_false_iff.mpr h]

theorem firstFault?_cons_eq_none_iff :
    firstFault? earlier (rule :: rules) = none ↔
      rule.fault? earlier = none ∧ firstFault? (earlier ++ [rule.name]) rules = none := by
  rw [firstFault?]
  cases rule.fault? earlier <;> simp

theorem firstFault?_of_subset (hsub : earlier ⊆ known) (h : firstFault? earlier rules = none) :
    firstFault? known rules = none := by
  induction rules generalizing earlier known with
  | nil => rfl
  | cons rule rules ih =>
    rw [firstFault?_cons_eq_none_iff, fault?_eq_none_iff] at h ⊢
    refine ⟨⟨h.1.1, fun name hname => hsub (h.1.2 name hname)⟩, ih ?_ h.2⟩
    exact List.append_subset.mpr ⟨List.subset_append_of_subset_left _ hsub,
      List.subset_append_right _ _⟩

theorem after_of_firstFault? (h : firstFault? earlier (before ++ rule :: after) = none) :
    ∀ name ∈ rule.after, name ∈ earlier ++ before.map (·.name) := by
  induction before generalizing earlier with
  | nil =>
    rw [List.nil_append, firstFault?_cons_eq_none_iff, fault?_eq_none_iff] at h
    simpa using h.1.2
  | cons other before ih =>
    rw [List.cons_append, firstFault?_cons_eq_none_iff] at h
    simpa using ih h.2

/-- A sound order stays one when a rule is moved to its front, where the rest is behind it. -/
theorem firstFault?_move (h : firstFault? earlier (before ++ rule :: after) = none) :
    firstFault? (earlier ++ [rule.name]) (before ++ after) = none := by
  induction before generalizing earlier with
  | nil =>
    rw [List.nil_append, firstFault?_cons_eq_none_iff] at h
    exact h.2
  | cons other before ih =>
    rw [List.cons_append, firstFault?_cons_eq_none_iff] at h ⊢
    rw [fault?_eq_none_iff] at h ⊢
    refine ⟨⟨h.1.1, fun name hname => List.mem_append_left _ (h.1.2 name hname)⟩, ?_⟩
    refine firstFault?_of_subset ?_ (ih h.2)
    intro name
    simp only [List.append_assoc, List.mem_append, List.mem_singleton]
    exact fun hname => hname.imp_right Or.symm

/-- The rules change a text in the same way in either order. -/
def Commutes (rule other : Rule) : Prop :=
  ∀ text, rule.apply (other.apply text) = other.apply (rule.apply text)

end Rule

namespace RuleSet

/-- Every accepted order of the rules gives the same text. -/
def Orderless (set : RuleSet) : Prop :=
  ∀ other : RuleSet, other.rules.Perm set.rules →
    ∀ text, (other.apply text).content = (set.apply text).content

theorem throughAll_move {rule : Rule} {before after : List Rule}
    (h : ∀ other ∈ before, rule.Commutes other) (text : Text) :
    throughAll (before ++ rule :: after) text = throughAll (rule :: (before ++ after)) text := by
  induction before generalizing text with
  | nil => rfl
  | cons other before ih =>
    have hother := h other List.mem_cons_self text
    have hnext := ih (fun more hm => h more (List.mem_cons_of_mem _ hm)) (other.apply text)
    simp only [throughAll, List.cons_append, List.foldl_cons] at hnext ⊢
    rw [hnext, hother]

/-- Two sound orders of the same rules. The induction is on the first one: its first rule is moved to
the front of the second one, across rules that neither of the two orders makes it follow. -/
theorem throughAll_perm {first second : List Rule} (hperm : first.Perm second)
    (hcommute : ∀ rule ∈ second, ∀ other ∈ second, rule.name ∉ other.after →
      other.name ∉ rule.after → rule.Commutes other) :
    ∀ {earlier : List String}, (earlier ++ second.map (·.name)).Nodup →
      Rule.firstFault? earlier first = none → Rule.firstFault? earlier second = none →
        ∀ text, throughAll first text = throughAll second text := by
  induction first generalizing second with
  | nil =>
    intro earlier _ _ _ text
    rw [List.nil_perm.mp hperm]
  | cons rule rest ih =>
    intro earlier hnames hfirst hsecond text
    obtain ⟨before, after, rfl⟩ := List.append_of_mem (hperm.subset List.mem_cons_self)
    have hrest : rest.Perm (before ++ after) :=
      (List.perm_cons rule).mp (hperm.trans List.perm_middle)
    rw [Rule.firstFault?_cons_eq_none_iff, Rule.fault?_eq_none_iff] at hfirst
    obtain ⟨⟨-, hafter⟩, hfirst⟩ := hfirst
    have hnames' : (earlier ++ before.map (·.name) ++ rule.name :: after.map (·.name)).Nodup := by
      simpa using hnames
    obtain ⟨hfresh, hothers⟩ := List.nodup_cons.mp (List.nodup_middle.mp hnames')
    have hmove : ∀ other ∈ before, rule.Commutes other := by
      intro other hother
      have hname : other.name ∈ before.map (·.name) := List.mem_map_of_mem hother
      refine hcommute rule (by simp) other (by simp [hother]) ?_ ?_
      · -- the second order is sound, and there `other` stands before `rule`
        intro hfollows
        obtain ⟨front, back, rfl⟩ := List.append_of_mem hother
        rw [List.append_assoc, List.cons_append] at hsecond
        have hknown := Rule.after_of_firstFault? hsecond _ hfollows
        refine hfresh (List.mem_append_left _ ?_)
        rw [List.map_append, ← List.append_assoc]
        exact List.mem_append_left _ hknown
      · -- the first order is sound, and there only what is known already stands before `rule`
        intro hfollows
        have hdisjoint := (List.nodup_append.mp (List.nodup_append.mp hothers).1).2.2
        exact hdisjoint _ (hafter _ hfollows) _ hname rfl
    have hsecond' := Rule.firstFault?_move hsecond
    have hnext : (earlier ++ [rule.name] ++ (before ++ after).map (·.name)).Nodup := by
      rw [List.append_assoc, List.singleton_append, List.nodup_middle]
      simpa using List.nodup_middle.mp hnames'
    rw [throughAll_move hmove]
    refine ih hrest (fun one h₁ two h₂ => ?_) hnext hfirst hsecond' (rule.apply text)
    have hkept : ∀ one ∈ before ++ after, one ∈ before ++ rule :: after := by
      intro one hone
      rcases List.mem_append.mp hone with hone | hone
      · exact List.mem_append_left _ hone
      · exact List.mem_append_right _ (List.mem_cons_of_mem _ hone)
    exact hcommute one (hkept one h₁) two (hkept two h₂)

/-- Rules may be shuffled if those that do not name each other commute. -/
theorem orderless_of_commutes {set : RuleSet} (hnames : (set.rules.map (·.name)).Nodup)
    (h : ∀ rule ∈ set.rules, ∀ other ∈ set.rules, rule.name ∉ other.after →
      other.name ∉ rule.after → rule.Commutes other) : set.Orderless := by
  intro other hperm text
  rw [apply_content, apply_content]
  exact throughAll_perm hperm h hnames other.sound set.sound text

end RuleSet

end Recast
