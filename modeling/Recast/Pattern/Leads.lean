import Recast.Pattern.Normal
import Recast.Text
import Recast.Text.Encoding

/-!
The bytes with which the matches of a pattern begin, as far as they are few and short. Where they
are whole matches, a pattern stands for a few plain texts and is looked up without an automaton.
Of the texts only some first bytes may be looked for, if these are fewer and tell enough; then the
pattern does not stand for the texts.
-/

namespace Recast

/-- Bytes with which a match may begin, and the text that they are if nothing more follows. -/
structure Lead where
  bytes : List Nat
  text? : Option Text
deriving DecidableEq, Repr

namespace Lead

def ofText (text : Text) : Lead := ⟨text.flatMap fun c => Text.encode c.toNat, some text⟩

def isWhole (lead : Lead) : Bool := lead.text?.isSome

def leaveOpen (lead : Lead) : Lead := { lead with text? := none }

def append (lead next : Lead) : Lead :=
  ⟨lead.bytes ++ next.bytes, do pure ((← lead.text?) ++ (← next.text?))⟩

def shorten (length : Nat) (lead : Lead) : Lead :=
  if lead.bytes.length ≤ length then lead else ⟨lead.bytes.take length, none⟩

end Lead

/-- The leads of a pattern in order of preference. There is no list if they are too many. -/
abbrev Leads := Option (List Lead)

namespace Leads

def most : Nat := 250

def longest : Nat := 100

/-- How many members a class may have, and how often a body is repeated, for the leads to be
listed. -/
def fewest : Nat := 10

def empty : Leads := some [.ofText []]

def merge : List Lead → List Lead
  | [] => []
  | lead :: more =>
    match merge more with
    | [] => [lead]
    | next :: others =>
      if lead.bytes = next.bytes then
        (if next.isWhole then lead else lead.leaveOpen) :: others
      else lead :: next :: others

def isOpen (leads : Leads) : Bool := leads.all fun list => list.all (!·.isWhole)

def andThen (left right : Leads) : Leads :=
  match left, right with
  | none, _ => none
  | some before, none => continued before
  | some before, some behind =>
    if most < before.length * behind.length then continued before
    else
      some ((merge (before.flatMap fun lead =>
        if lead.isWhole then behind.map lead.append else [lead])).map (Lead.shorten longest))
where
  continued (before : List Lead) : Leads :=
    if before.any (·.bytes.isEmpty) then none else some (before.map Lead.leaveOpen)

def orElse (left right : Leads) : Leads :=
  match left, right with
  | some first, some second =>
    if first.length + second.length ≤ most then some (merge (first ++ second))
    else
      let first := merge (first.map (Lead.shorten 4))
      let second := merge (second.map (Lead.shorten 4))
      if first.length + second.length ≤ most then some (merge (first ++ second)) else none
  | _, _ => none

def follow (sofar part : Leads) : Leads := if sofar.isOpen then sofar else andThen sofar part

def times (bounds : Bounds) (body : Leads) : Leads :=
  if bounds.least = 0 then
    let body := if bounds.most = some 1 then body else body.map (·.map Lead.leaveOpen)
    if bounds.lazy then orElse empty body else orElse body empty
  else
    let rounds := (List.replicate (min bounds.least fewest) body).foldl follow empty
    if bounds.most = some bounds.least && bounds.least ≤ fewest then rounds
    else rounds.map (·.map Lead.leaveOpen)

def ofClass (k : CharClass) : Leads :=
  let ranges := k.places.map fun range =>
    (CharClass.codeAt range.1, CharClass.codeAt range.2)
  if fewest < (ranges.map fun range => range.2 - range.1 + 1).foldl (· + ·) 0 then none
  else
    some (ranges.flatMap fun range =>
      (List.range (range.2 - range.1 + 1)).map fun i => .ofText [Char.ofNat (range.1 + i)])

def minimal (leads : List Lead) : List Lead :=
  leads.foldl (fun kept lead =>
    if kept.any fun earlier => earlier.bytes.isPrefixOf lead.bytes then kept
    else kept ++ [lead]) []

def sharedBytes : List Lead → Nat
  | [] => 0
  | lead :: more =>
    more.foldl (fun n other => min n (Text.sharedLength lead.bytes other.bytes)) lead.bytes.length

def commonBytes : List (Nat × Nat) :=
  [(0x0A, 0x0A), (0x0D, 0x0D), (0x20, 0x20), (0x28, 0x29), (0x2C, 0x32), (0x39, 0x3A),
   (0x5F, 0x5F), (0x61, 0x69), (0x6C, 0x70), (0x72, 0x76), (0x78, 0x79), (0x7C, 0x7C),
   (0x80, 0x84), (0x90, 0x90), (0xB1, 0xB1), (0xB5, 0xB7), (0xB9, 0xBD), (0xBF, 0xFF)]

def beginsRarely : List Lead → Bool
  | [] => false
  | lead :: _ => lead.bytes.head?.any fun byte => !Text.inRanges commonBytes byte

/-- Keeps fewer bytes of the leads as long as there are too many of them. Each step says how many
bytes it keeps, and with how many leads it is not taken any more. -/
def tighten : List (Nat × Nat) → List Lead → List Lead
  | [], leads => leads
  | (length, enough) :: more, leads =>
    if leads.length ≤ enough then leads
    else tighten more (minimal (leads.map (Lead.shorten length)))

/-- What is looked for instead of a list of leads. Leads with a short shared beginning that is rare
are found by its first byte; those with a long one, or with any if they are many, by that beginning;
and others by a few of their bytes, unless these are too few. -/
def sought (leads : List Lead) : List Lead :=
  let few := minimal leads
  let shared := sharedBytes few
  if 1 < leads.length && 1 ≤ shared && shared ≤ 3 && beginsRarely few then
    few.map (Lead.shorten 1)
  else if 4 < shared || (1 < shared && 16 < few.length) then few.map (Lead.shorten shared)
  else
    let tight := tighten [(5, 10), (4, 10), (3, 64), (2, 64), (1, 10)] few
    if (tight.any fun lead => lead.bytes.length ≤ 2) || 64 < tight.length then few else tight

def texts? (leads : Leads) : Option (List Text) := do
  let list ← leads
  let texts ← list.mapM (·.text?)
  if texts.isEmpty || texts.any List.isEmpty then none
  if (sought list).all Lead.isWhole then some texts else none

end Leads

inductive Joint where
  | sequence
  | choice
deriving DecidableEq, Repr

namespace Joint

def add : Joint → Leads → Leads → Leads
  | sequence, sofar, part => sofar.follow part
  | choice, sofar, part => sofar.orElse part

end Joint

namespace Pattern

/-- Adds the leads of a pattern to those of the parts before it. The parts of a sequence within a
sequence, and the branches of an alternative within an alternative, are added one by one. -/
def leadsIn (joint : Joint) (sofar : Leads) : Pattern → Leads
  | empty => joint.add sofar .empty
  | char members => joint.add sofar (.ofClass members)
  | look _ => joint.add sofar .empty
  | group _ body => joint.add sofar (body.leadsIn .sequence .empty)
  | seq first second =>
    match joint with
    | .sequence => second.leadsIn .sequence (first.leadsIn .sequence sofar)
    | .choice => sofar.orElse (second.leadsIn .sequence (first.leadsIn .sequence .empty))
  | alt first second =>
    match joint with
    | .choice => second.leadsIn .choice (first.leadsIn .choice sofar)
    | .sequence => sofar.follow (second.leadsIn .choice (first.leadsIn .choice (some [])))
  | repeated body bounds => joint.add sofar (.times bounds (body.leadsIn .sequence .empty))

def leads (pattern : Pattern) : Leads := pattern.leadsIn .sequence .empty

def isPlain : Pattern → Bool
  | empty => true
  | char _ => true
  | look _ => false
  | group _ _ => false
  | seq first second => first.isPlain && second.isPlain
  | alt first second => first.isPlain && second.isPlain
  | repeated body _ => body.isPlain

def texts? (pattern : Pattern) : Option (List Text) :=
  if pattern.isPlain then pattern.leads.texts? else none

def ofTexts (texts : List Text) : Pattern :=
  choice (texts.map fun text => ofList (text.map fun c => char (.single c)))

end Pattern

end Recast
