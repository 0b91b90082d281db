import Recast.Guard

/-!
Rules: a matcher, what to do at its spans, and the condition under which to do it.
-/

namespace Recast

inductive Side where
  | before
  | after
deriving DecidableEq, Repr

/-- What a rule does. An insertion goes next to the first span only. -/
inductive Action where
  | replace (new : Replacement) (scope : Scope)
  | insert (text : Text) (side : Side)

namespace Action

def isInsert : Action → Bool
  | replace _ _ => false
  | insert _ _ => true

end Action

inductive RuleKind where
  | replaceInPlace
  | replaceConstruct
  | insertAtAnchor
deriving DecidableEq, Repr

namespace RuleKind

def name : RuleKind → String
  | replaceInPlace => "replace-in-place"
  | replaceConstruct => "replace-construct"
  | insertAtAnchor => "insert-at-anchor"

end RuleKind

structure Rule where
  name : String
  matcher : Matcher
  action : Action
  guard : Guard
  after : List String

namespace Rule

def replace (name : String) (matcher : Matcher) (template : Text) : Rule :=
  ⟨name, matcher, .replace (.template template) .all, .always, []⟩

def compute (name : String) (matcher : Matcher) (f : Text → Text) : Rule :=
  ⟨name, matcher, .replace (.computed f) .all, .always, []⟩

def remove (name : String) (matcher : Matcher) : Rule := replace name matcher []

def insertAfter (name : String) (anchor : Matcher) (text : Text) : Rule :=
  ⟨name, anchor, .insert text .after, .always, []⟩

def insertBefore (name : String) (anchor : Matcher) (text : Text) : Rule :=
  ⟨name, anchor, .insert text .before, .always, []⟩

/-- Restricts a replacement to the first span. An insertion has only one anyway. -/
def firstOnly (rule : Rule) : Rule :=
  match rule.action with
  | .replace new _ => { rule with action := .replace new .first }
  | .insert _ _ => rule

def guardedBy (rule : Rule) (guard : Guard) : Rule := { rule with guard := guard }

def following (rule : Rule) (name : String) : Rule := { rule with after := rule.after ++ [name] }

def kind (rule : Rule) : RuleKind :=
  match rule.action with
  | .insert _ _ => .insertAtAnchor
  | .replace _ _ => if rule.matcher.spansLines then .replaceConstruct else .replaceInPlace

def insertAt (content new : Text) (side : Side) (span : Span) : Text :=
  let place :=
    match side with
    | .before => span.start
    | .after => span.stop
  content.take place ++ new ++ content.drop place

def fire? (rule : Rule) (content : Text) : Option Text :=
  if rule.guard.holds content then
    let updated :=
      match rule.action with
      | .replace new scope => rule.matcher.replace? new scope content
      | .insert new side => (rule.matcher.find? content).map (insertAt content new side)
    updated.filter (· != content)
  else none

def apply (rule : Rule) (content : Text) : Text := (rule.fire? content).getD content

end Rule

end Recast
