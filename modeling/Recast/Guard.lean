import Recast.Matcher

/-!
Guards: conditions on the whole text that a rule is applied to.
-/

namespace Recast

inductive Guard where
  | always
  | contains (marker : Text)
  | lacks (marker : Text)
  | matched (matcher : Matcher)
  | unmatched (matcher : Matcher)
  | all (guards : List Guard)
  | any (guards : List Guard)

namespace Guard

mutual

def holds : Guard → Text → Bool
  | always, _ => true
  | contains marker, text => marker.within text
  | lacks marker, text => !marker.within text
  | matched matcher, text => matcher.isMatch text
  | unmatched matcher, text => !matcher.isMatch text
  | all guards, text => allHold guards text
  | any guards, text => anyHolds guards text

def allHold : List Guard → Text → Bool
  | [], _ => true
  | g :: more, text => g.holds text && allHold more text

def anyHolds : List Guard → Text → Bool
  | [], _ => false
  | g :: more, text => g.holds text || anyHolds more text

end

mutual

def describe : Guard → Text
  | always => "always".toList
  | contains marker => "contains ".toList ++ Text.quoted marker
  | lacks marker => "lacks ".toList ++ Text.quoted marker
  | matched matcher => "matches ".toList ++ matcher.describe
  | unmatched matcher => "no match ".toList ++ matcher.describe
  | all guards => "all(".toList ++ ", ".toList.intercalate (describeAll guards) ++ ")".toList
  | any guards => "any(".toList ++ ", ".toList.intercalate (describeAll guards) ++ ")".toList

def describeAll : List Guard → List Text
  | [] => []
  | g :: more => g.describe :: describeAll more

end

/-- The guard that every text passes. A conjunction of no guards is not written this way. -/
def isAlways : Guard → Bool
  | always => true
  | _ => false

end Guard

end Recast
