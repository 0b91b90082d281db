import Recast.Pattern.Leads
import Recast.Pattern.Plan

/-!
The limit on the size of a pattern. It is measured on the automata that run the pattern over UTF-8
bytes, forward and backward. Either must stay within a budget, so a counted repetition cannot be
arbitrarily large. A pattern that stands for plain texts is looked up without them and may have any
size. Matching itself goes by characters and does not depend on these automata.
-/

namespace Recast

namespace Plan

def fits (direction : Direction) (plan : Plan CharClass) : Bool :=
  plan.weigh CharClass.bound ≤ Extent.budget ||
    match direction with
    | .forward => ((plan.map fun k => Ways.ofPaths k.paths).build Ways.build ⟨0, 0⟩).isSome
    | .backward => ((plan.map CharClass.paths).build Paths.build ⟨0, 0⟩).isSome

end Plan

namespace Pattern

def manyWords : Nat := 3000

def isLexicon (pattern : Pattern) : Bool :=
  pattern.words?.any fun words => manyWords ≤ words.length

def withinBudget (pattern : Pattern) : Bool :=
  (pattern.plan .forward).fits .forward && (pattern.plan .backward).fits .backward

/-- The pattern that is matched in place of one that may be too large: the same one, or the
alternative between the few texts that it stands for. -/
def bounded? (pattern : Pattern) : Option Pattern :=
  if pattern.withinBudget || pattern.isLexicon then some pattern
  else pattern.texts?.map ofTexts

end Pattern

end Recast
