import Recast.Text.Ranges
import Recast.Text.Property.Age
import Recast.Text.Property.Category
import Recast.Text.Property.GraphemeBreak
import Recast.Text.Property.Script
import Recast.Text.Property.ScriptExtension
import Recast.Text.Property.SentenceBreak
import Recast.Text.Property.Trait
import Recast.Text.Property.WordBreak

/-!
Properties by name. Names are compared loosely: case, spaces, hyphens and underscores do not count,
and neither does a leading "is".
-/

namespace Recast.Text.Property

/-- The normal spelling of a name. A lone letter C behind "is" keeps that lead, because it does not
mean the category of that letter. -/
def normalName (name : List Char) : String :=
  let lead := (name.take 2).map Char.toLower = ['i', 's']
  let rest := if lead then name.drop 2 else name
  let kept := (rest.filter fun c => c.toNat < 0x80 && c != ' ' && c != '_' && c != '-').map
    Char.toLower
  if lead && kept = ['c'] then "isc" else String.ofList kept

def look? (properties : List Property) (name : String) : Option (List (Nat × Nat)) :=
  (properties.find? fun property => property.named name).map ranges

def groupOf? (name : String) : Option (List String) :=
  match name with
  | "l" | "letter" => some ["lu", "ll", "lt", "lm", "lo"]
  | "lc" | "casedletter" => some ["lu", "ll", "lt"]
  | "m" | "mark" | "combiningmark" => some ["mn", "mc", "me"]
  | "n" | "number" => some ["nd", "nl", "no"]
  | "p" | "punctuation" | "punct" => some ["pc", "pd", "ps", "pe", "pi", "pf", "po"]
  | "s" | "symbol" => some ["sm", "sc", "sk", "so"]
  | "z" | "separator" => some ["zs", "zl", "zp"]
  | "c" | "other" => some ["cc", "cf", "cn", "co"]
  | _ => none

def lastCode : Nat := 0x10FFFF

def category? (name : String) : Option (List (Nat × Nat)) :=
  match name with
  | "any" => some [(0, lastCode)]
  | "ascii" => some [(0, 0x7F)]
  | "assigned" => (look? categories "cn").map (otherRanges 0 lastCode)
  | _ =>
    match groupOf? name with
    | some members => some ((members.filterMap (look? categories)).foldl unionRanges [])
    | none => look? categories name

/-- A property that is asked for by its bare name. Where a short name has two meanings, the
category is meant. -/
def ofName? (name : List Char) : Option (List (Nat × Nat)) :=
  let name := normalName name
  (look? traits name).orElse fun _ =>
    (category? name).orElse fun _ => look? scripts name

def without (kept dropped : List (Nat × Nat)) : List (Nat × Nat) :=
  otherRanges 0 lastCode (unionRanges (otherRanges 0 lastCode kept) dropped)

/-- The characters that a script uses: its own as far as nothing else is said of them, and those
that are said to be used by it. -/
def usedBy? (name : String) : Option (List (Nat × Nat)) := do
  let script ← scripts.find? fun script => script.named name
  let own := without script.ranges (borrowed.foldl (fun all row => unionRanges row.ranges all) [])
  let used := borrowed.filter fun row => script.names.any row.named
  pure (used.foldl (fun all row => unionRanges row.ranges all) own)

def upTo? (name : String) : List Property → Option (List (Nat × Nat))
  | [] => none
  | edition :: later =>
    if edition.named name then some edition.ranges
    else (upTo? name later).map (unionRanges edition.ranges)

def ofValue? (property value : List Char) : Option (List (Nat × Nat)) :=
  let value := normalName value
  match normalName property with
  | "gc" | "generalcategory" => category? value
  | "sc" | "script" => look? scripts value
  | "scx" | "scriptextensions" => usedBy? value
  | "age" => upTo? value editions
  | "gcb" | "graphemeclusterbreak" => look? graphemeBreaks value
  | "wb" | "wordbreak" => look? wordBreaks value
  | "sb" | "sentencebreak" => look? sentenceBreaks value
  | _ => none

end Recast.Text.Property
