import Recast.Pattern.Normal
import Recast.Pattern.Extent
import Recast.Text.Encoding

/-!
Alternatives between plain texts. They do not branch one by one but as a tree of letters, in which
texts with a shared beginning go together as long as no text ends between them.
-/

namespace Recast

namespace Words

def chunks : List (List Nat) → List (List (List Nat))
  | [] => [[]]
  | [] :: more => [] :: chunks more
  | word :: more =>
    match chunks more with
    | [] => [[word]]
    | chunk :: others => (word :: chunk) :: others

def byLetter : List (List Nat) → List (Nat × List (List Nat))
  | [] => []
  | [] :: more => byLetter more
  | (letter :: rest) :: more =>
    let others := byLetter more
    let same := (others.lookup letter).getD []
    (letter, rest :: same) :: others.filter (·.1 != letter)

/-- The size of the tree that words branch into, from one of its nodes on. Where a word ends, the
words before it and behind it are kept apart. The fuel bounds the length of the words. -/
def extentBelow : Nat → List (List Nat) → Extent
  | 0, _ => .ofStates 0 0
  | fuel + 1, words =>
    if words.all List.isEmpty then .ofStates 0 0
    else
      let words := if words.head? = some [] then [] :: words.dropWhile List.isEmpty else words
      let groups := (chunks words).map byLetter
      let filled := groups.filter fun group => !group.isEmpty
      let ends := groups.length - 1
      let own :=
        (filled.map fun group => if group.length = 1 then 0 else 8 * group.length).foldl (· + ·) 0
      let below := filled.flatten.map fun branch => extentBelow fuel branch.2
      below.foldl (· + ·) (.ofStates (filled.length + 1) (4 * (filled.length + ends) + own))

def extent (words : List (List Nat)) : Extent :=
  .ofStates 1 0 + extentBelow ((words.map List.length).foldl (· + ·) 0 + 1) words

end Words

namespace Pattern

def plainBytes? (pattern : Pattern) : Option (List Nat) :=
  let parts := pattern.parts
  let letters := parts.filterMap literal?
  if parts.isEmpty || letters.length != parts.length then none
  else some (letters.flatMap fun c => Text.encode c.toNat)

def words? (pattern : Pattern) : Option (List (List Nat)) :=
  match pattern with
  | alt _ _ =>
    let branches := pattern.branches
    let words := branches.filterMap plainBytes?
    if words.length = branches.length then some words else none
  | _ => none

end Pattern

end Recast
