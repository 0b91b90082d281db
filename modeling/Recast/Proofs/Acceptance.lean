import Mathlib.Logic.Relation
import Recast.Proofs.Shuffling

/-! Which lists of rules are accepted as a rule set. A list is accepted exactly if every rule fits behind
the rules before it, and otherwise the first rule that does not is reported, with one of its faults. In
an accepted list whose rules have distinct names, no rule depends on itself through others. -/

namespace Recast

theorem Action.isInsert_iff {action : Action} :
    action.isInsert = true ↔ ∃ text side, action = .insert text side := by
  cases action <;> simp [isInsert]

theorem Guard.isAlways_iff {guard : Guard} : guard.isAlways = true ↔ guard = .always := by
  cases guard <;> simp [isAlways]

namespace Rule

def Unguarded (rule : Rule) : Prop :=
  (∃ text side, rule.action = .insert text side) ∧ rule.guard = .always

def Named (rules : List Rule) (name : String) : Prop := ∃ other ∈ rules, other.name = name

structure Fits (earlier : List Rule) (rule : Rule) : Prop where
  guarded : ¬ rule.Unguarded
  follows : ∀ name ∈ rule.after, Named earlier name

inductive Misfit (earlier : List Rule) (rule : Rule) : Fault → Prop
  | unguarded (h : rule.Unguarded) : Misfit earlier rule (.unguardedInsert rule.name)
  | unmet {met unmet : List String} {name : String} (hguarded : ¬ rule.Unguarded)
      (hafter : rule.after = met ++ name :: unmet) (hmet : ∀ other ∈ met, Named earlier other)
      (hname : ¬ Named earlier name) : Misfit earlier rule (.ruleOrder rule.name name)

variable {rule other : Rule} {rules before after earlier : List Rule} {fault : Fault}

theorem unguarded_iff :
    rule.Unguarded ↔ (rule.action.isInsert && rule.guard.isAlways) = true := by
  rw [Bool.and_eq_true, Action.isInsert_iff, Guard.isAlways_iff]
  rfl

theorem named_iff {name : String} : Named rules name ↔ name ∈ rules.map (·.name) :=
  List.mem_map.symm

theorem fits_iff_fault? : Fits earlier rule ↔ rule.fault? (earlier.map (·.name)) = none := by
  rw [fault?_eq_none_iff, ← Bool.not_eq_true, ← unguarded_iff]
  simp only [← named_iff]
  exact ⟨fun h => ⟨h.guarded, h.follows⟩, fun h => ⟨h.1, h.2⟩⟩

theorem misfit_iff_fault? :
    Misfit earlier rule fault ↔ rule.fault? (earlier.map (·.name)) = some fault := by
  have hfind (name : String) : (!(earlier.map (·.name)).contains name) = true ↔
      ¬ Named earlier name := by
    rw [named_iff, Bool.not_eq_true', ← Bool.not_eq_true, List.contains_iff_mem]
  rw [fault?]
  by_cases hguard : rule.Unguarded
  · rw [if_pos (unguarded_iff.mp hguard), Option.some.injEq]
    constructor
    · intro h
      cases h with
      | unguarded => rfl
      | unmet hguarded => exact absurd hguard hguarded
    · rintro rfl
      exact .unguarded hguard
  · rw [if_neg (mt unguarded_iff.mpr hguard), Option.map_eq_some_iff]
    simp only [List.find?_eq_some_iff_append]
    constructor
    · intro h
      cases h with
      | unguarded h => exact absurd h hguard
      | @unmet met unmet name _ hafter hmet hname =>
        refine ⟨name, ⟨(hfind name).mpr hname, met, unmet, hafter, fun other hother => ?_⟩, rfl⟩
        rw [Bool.not_eq_true', ← Bool.not_eq_true, hfind, not_not]
        exact hmet other hother
    · rintro ⟨name, ⟨hname, met, unmet, hafter, hmet⟩, rfl⟩
      refine .unmet hguard hafter (fun other hother => ?_) ((hfind name).mp hname)
      have := hmet other hother
      rwa [Bool.not_eq_true', ← Bool.not_eq_true, hfind, not_not] at this

/-- Every rule fits behind the rules before it. -/
def WellOrdered (rules : List Rule) : Prop :=
  ∀ before rule after, rules = before ++ rule :: after → Fits before rule

theorem WellOrdered.of_front (h : WellOrdered rules) {front : List Rule} (hfront : front <+: rules) :
    WellOrdered front := by
  obtain ⟨back, rfl⟩ := hfront
  rintro before rule after rfl
  exact h before rule (after ++ back) (by simp)

theorem firstFault?_eq_none_iff : firstFault? (earlier.map (·.name)) rules = none ↔
    ∀ before rule after, rules = before ++ rule :: after → Fits (earlier ++ before) rule := by
  induction rules generalizing earlier with
  | nil => simp [firstFault?]
  | cons first rules ih =>
    have hnext : earlier.map (·.name) ++ [first.name] = (earlier ++ [first]).map (·.name) := by simp
    rw [firstFault?_cons_eq_none_iff, ← fits_iff_fault?, hnext, ih]
    constructor
    · rintro ⟨hfirst, hrules⟩ before rule after heq
      cases before with
      | nil =>
        obtain ⟨rfl, rfl⟩ := List.cons.inj heq
        rwa [List.append_nil]
      | cons other before =>
        obtain ⟨rfl, rfl⟩ := List.cons.inj heq
        simpa using hrules before rule after rfl
    · intro h
      refine ⟨by simpa using h [] first rules rfl, ?_⟩
      rintro before rule after rfl
      simpa using h (first :: before) rule after rfl

theorem wellOrdered_iff_firstFault? : WellOrdered rules ↔ firstFault? [] rules = none :=
  (@firstFault?_eq_none_iff rules []).symm

theorem firstFault?_eq_some_iff {known : List String} :
    firstFault? known rules = some fault ↔ ∃ before rule after, rules = before ++ rule :: after ∧
      firstFault? known before = none ∧
        rule.fault? (known ++ before.map (·.name)) = some fault := by
  induction rules generalizing known with
  | nil => simp [firstFault?]
  | cons first rules ih =>
    rw [firstFault?]
    cases hfirst : first.fault? known with
    | some found =>
      simp only [Option.some.injEq]
      constructor
      · rintro rfl
        exact ⟨[], first, rules, rfl, rfl, by simpa using hfirst⟩
      · rintro ⟨before, rule, after, heq, hbefore, hrule⟩
        cases before with
        | nil =>
          obtain ⟨rfl, rfl⟩ := List.cons.inj heq
          simpa [hfirst] using hrule
        | cons other before =>
          obtain ⟨rfl, rfl⟩ := List.cons.inj heq
          rw [firstFault?_cons_eq_none_iff, hfirst] at hbefore
          cases hbefore.1
    | none =>
      simp only [ih]
      constructor
      · rintro ⟨before, rule, after, rfl, hbefore, hrule⟩
        refine ⟨first :: before, rule, after, rfl, ?_, by simpa using hrule⟩
        exact firstFault?_cons_eq_none_iff.mpr ⟨hfirst, hbefore⟩
      · rintro ⟨before, rule, after, heq, hbefore, hrule⟩
        cases before with
        | nil =>
          obtain ⟨rfl, rfl⟩ := List.cons.inj heq
          simp [hfirst] at hrule
        | cons other before =>
          obtain ⟨rfl, rfl⟩ := List.cons.inj heq
          exact ⟨before, rule, after, rfl, (firstFault?_cons_eq_none_iff.mp hbefore).2,
            by simpa using hrule⟩

def DependsOn (rules : List Rule) (rule other : Rule) : Prop :=
  rule ∈ rules ∧ other ∈ rules ∧ other.name ∈ rule.after

theorem DependsOn.idxOf_lt (h : WellOrdered rules) (hnames : (rules.map (·.name)).Nodup)
    (hdepends : DependsOn rules rule other) :
    (rules.map (·.name)).idxOf other.name < (rules.map (·.name)).idxOf rule.name := by
  obtain ⟨hrule, -, hafter⟩ := hdepends
  obtain ⟨before, after, rfl⟩ := List.append_of_mem hrule
  have hbefore := named_iff.mp ((h before rule after rfl).follows _ hafter)
  rw [List.map_append, List.map_cons] at hnames ⊢
  have hfresh : rule.name ∉ before.map (·.name) := fun hmem =>
    (List.nodup_append.mp hnames).2.2 _ hmem _ List.mem_cons_self rfl
  rw [List.idxOf_append_of_mem hbefore, List.idxOf_append_of_notMem hfresh, List.idxOf_cons_self]
  exact Nat.lt_add_right _ (List.idxOf_lt_length_of_mem hbefore)

theorem not_cyclic (h : WellOrdered rules) (hnames : (rules.map (·.name)).Nodup) (rule : Rule) :
    ¬ Relation.TransGen (DependsOn rules) rule rule := by
  have hlt {one two : Rule} (hpath : Relation.TransGen (DependsOn rules) one two) :
      (rules.map (·.name)).idxOf two.name < (rules.map (·.name)).idxOf one.name := by
    induction hpath with
    | single hstep => exact hstep.idxOf_lt h hnames
    | tail _ hstep ih => exact Nat.lt_trans (hstep.idxOf_lt h hnames) ih
  exact fun hcycle => Nat.lt_irrefl _ (hlt hcycle)

/-- With one name for two rules, the rule between them follows either of them and is followed by one. -/
example : firstFault? []
    [.remove "a" (.literal ['a']), (Rule.remove "b" (.literal ['b'])).following "a",
      (Rule.remove "a" (.literal ['c'])).following "b"] = none := rfl

end Rule

namespace RuleSet

theorem build_ok_iff {name : String} {rules : List Rule} {set : RuleSet} :
    build name rules = .ok set ↔ set.name = name ∧ set.rules = rules := by
  rw [build]
  split
  next h =>
    constructor
    · intro heq
      obtain rfl := Except.ok.inj heq
      exact ⟨rfl, rfl⟩
    · rintro ⟨rfl, rfl⟩
      rfl
  next fault h =>
    constructor
    · intro heq
      cases heq
    · rintro ⟨-, rfl⟩
      rw [set.sound] at h
      cases h

theorem build_error_iff {name : String} {rules : List Rule} {fault : Fault} :
    build name rules = .error fault ↔ Rule.firstFault? [] rules = some fault := by
  rw [build]
  split
  next h => simp [h]
  next other h => simp [h]

theorem exists_build_iff {name : String} {rules : List Rule} :
    (∃ set, build name rules = .ok set) ↔ Rule.WellOrdered rules := by
  rw [Rule.wellOrdered_iff_firstFault?]
  constructor
  · rintro ⟨set, hset⟩
    obtain ⟨-, rfl⟩ := build_ok_iff.mp hset
    exact set.sound
  · exact fun h => ⟨⟨name, rules, h⟩, build_ok_iff.mpr ⟨rfl, rfl⟩⟩

/-- What building a rule set from a list of rules comes to. -/
structure Checked (name : String) (rules : List Rule) : Prop where
  accepted : (∃ set, build name rules = .ok set) ↔ Rule.WellOrdered rules
  kept : ∀ set, build name rules = .ok set → set.name = name ∧ set.rules = rules
  refused : ∀ fault, build name rules = .error fault ↔
    ∃ before rule after, rules = before ++ rule :: after ∧ Rule.WellOrdered before ∧
      Rule.Misfit before rule fault
  fronts : (∃ set, build name rules = .ok set) → ∀ front, front <+: rules →
    ∃ set, build name front = .ok set
  acyclic : (∃ set, build name rules = .ok set) → (rules.map (·.name)).Nodup →
    ∀ rule, ¬ Relation.TransGen (Rule.DependsOn rules) rule rule

/-- A list of rules is accepted exactly if it is well ordered, and the first rule that does not fit
decides what is reported otherwise. -/
theorem build_checks (name : String) (rules : List Rule) : Checked name rules where
  accepted := exists_build_iff
  kept _ h := build_ok_iff.mp h
  refused fault := by
    rw [build_error_iff, Rule.firstFault?_eq_some_iff]
    simp only [List.nil_append, Rule.wellOrdered_iff_firstFault?, Rule.misfit_iff_fault?]
  fronts h front hfront := exists_build_iff.mpr ((exists_build_iff.mp h).of_front hfront)
  acyclic h hnames := Rule.not_cyclic (exists_build_iff.mp h) hnames

end RuleSet

end Recast
