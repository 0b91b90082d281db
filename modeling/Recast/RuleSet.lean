import Recast.Fault
import Recast.Rule

/-!
Rule sets: rules that are applied one after the other, each to what the one before it left.
Every insertion of a rule set is guarded, and every rule stands behind those it must follow.
-/

namespace Recast

namespace Rule

/-- What is wrong with a rule that stands behind the rules named `earlier`. A missing guard is
reported before a missing predecessor, and of several the first one declared. -/
def fault? (earlier : List String) (rule : Rule) : Option Fault :=
  if rule.action.isInsert && rule.guard.isAlways then some (.unguardedInsert rule.name)
  else (rule.after.find? (!earlier.contains ·)).map (.ruleOrder rule.name)

/-- What is wrong with the first faulty rule of a list that stands behind the rules named
`earlier`. -/
def firstFault? (earlier : List String) : List Rule → Option Fault
  | [] => none
  | rule :: more =>
    match rule.fault? earlier with
    | some fault => some fault
    | none => firstFault? (earlier ++ [rule.name]) more

end Rule

structure RuleSet where
  name : String
  rules : List Rule
  sound : Rule.firstFault? [] rules = none

structure Applied where
  content : Text
  fired : List String
deriving DecidableEq, Repr

namespace Applied

def step (sofar : Applied) (rule : Rule) : Applied :=
  match rule.fire? sofar.content with
  | none => sofar
  | some content => ⟨content, sofar.fired ++ [rule.name]⟩

end Applied

namespace RuleSet

def ofRules (name : String) (rules : List Rule)
    (sound : Rule.firstFault? [] rules = none := by decide +kernel) : RuleSet :=
  ⟨name, rules, sound⟩

def build (name : String) (rules : List Rule) : Except Fault RuleSet :=
  match h : Rule.firstFault? [] rules with
  | none => .ok ⟨name, rules, h⟩
  | some fault => .error fault

def apply (set : RuleSet) (content : Text) : Applied :=
  set.rules.foldl Applied.step ⟨content, []⟩

end RuleSet

end Recast
