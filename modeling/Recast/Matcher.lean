import Recast.Template
import Recast.Text.Quoted

/-!
Matchers select spans of a text, and replacement puts new text in their place. The spans of a
matcher ascend and do not overlap; everything outside them is kept.
-/

namespace Recast

/-- What is looked for. The empty literal never occurs. A braced item goes from its header to the brace that
closes the first one opened at or behind the start of the header; braces inside strings and comments count
like any other. -/
inductive Matcher where
  | literal (needle : Text)
  | regex (expr : Regex)
  | lines (block : List Text)
  | braced (header : Regex)
deriving DecidableEq, Repr

namespace Matcher

/-- A probe for one fixed text where `accepts` holds of the place and of what follows the text. -/
def textProbe (needle : Text) (accepts : Cursor → Text → Bool) (_behind : Bool) (here : Cursor) :
    Probe Span :=
  if !needle.isEmpty && needle.isPrefixOf here.rest
      && accepts here (here.rest.drop needle.length) then
    .hit ⟨here.pos, here.pos + needle.length⟩ (here.pos + needle.length)
  else .miss

def literalProbe (needle : Text) : Bool → Cursor → Probe Span :=
  textProbe needle fun _ _ => true

def startsLine (here : Cursor) : Bool := here.prev.all (· = '\n')

def endsLine (rest : Text) : Bool :=
  rest.isEmpty || ['\n'].isPrefixOf rest || ['\r', '\n'].isPrefixOf rest

def linesProbe (block : Text) : Bool → Cursor → Probe Span :=
  textProbe block fun here after => startsLine here && endsLine after

/-- The offset just past the brace that closes the first one opened in the text. `depth` braces
are open already; a closing brace before any is open is passed over. -/
def closing? : Nat → Nat → Text → Option Nat
  | _, _, [] => none
  | depth, pos, c :: rest =>
    if c = '\x7b' then closing? (depth + 1) (pos + 1) rest
    else if c = '\x7d' then
      match depth with
      | 0 => closing? 0 (pos + 1) rest
      | 1 => some (pos + 1)
      | depth + 2 => closing? (depth + 1) (pos + 1) rest
    else closing? depth (pos + 1) rest

/-- A probe for braced items. A header without a closed body ends the sweep, and so does the lack of
a header. -/
def bracedProbe (steps : Array Step) (_behind : Bool) (here : Cursor) : Probe Span :=
  match Automaton.search? steps here with
  | none => .halt
  | some found =>
    let start := found.span.start
    match closing? 0 start (here.rest.drop (start - here.pos)) with
    | none => .halt
    | some stop => .hit ⟨start, stop⟩ (max stop found.span.stop)

def blockText (block : List Text) : Text := ['\n'].intercalate block

/-- All spans, from left to right and without overlap. -/
def spans (matcher : Matcher) (text : Text) : List Span :=
  match matcher with
  | literal needle => sweep (literalProbe needle) text
  | regex expr => (expr.pattern.findAll text).map (·.span)
  | lines block => sweep (linesProbe (blockText block)) text
  | braced header => sweep (bracedProbe header.pattern.automaton) text

def find? (matcher : Matcher) (text : Text) : Option Span :=
  match matcher with
  | literal needle =>
    if needle.isEmpty then none
    else (Text.splitBefore? needle text).map fun cut =>
      ⟨cut.1.length, cut.1.length + needle.length⟩
  | regex expr => (expr.pattern.find? text).map (·.span)
  | lines _ => (matcher.spans text).head?
  | braced _ => (matcher.spans text).head?

def isMatch (matcher : Matcher) (text : Text) : Bool :=
  match matcher with
  | regex expr => expr.pattern.isMatch text
  | _ => (matcher.find? text).isSome

/-- Whether the pattern is written for a construct of several lines. This is read off the written
form, not off what the pattern can match. -/
def spansLines : Matcher → Bool
  | literal needle => needle.contains '\n'
  | regex expr =>
    Text.within "(?s".toList expr.source || Text.within "\\n".toList expr.source
      || Text.within "\\s".toList expr.source
  | lines block => 1 < block.length
  | braced _ => true

def describe : Matcher → Text
  | literal needle => Text.quoted needle
  | regex expr => "/".toList ++ expr.source ++ "/".toList
  | lines block => "lines".toList ++ Text.quotedList block
  | braced header => "braced /".toList ++ header.source ++ "/".toList

end Matcher

/-- What comes in place of a span. Only a regular expression fills in the references of a template to its
groups. -/
inductive Replacement where
  | template (text : Text)
  | computed (f : Text → Text)

namespace Replacement

def acts : Replacement → Text → Text
  | template text, _ => text
  | computed f, covered => f covered

def fill (expr : Regex) (hit : Match) (text : Text) : Replacement → Text
  | template filled => Template.expand expr filled hit text
  | computed f => f (hit.span.slice text)

/-- The new text for every span. -/
def edits (new : Replacement) (text : Text) (spans : List Span) : List (Span × Text) :=
  spans.map fun span => (span, new.acts (span.slice text))

/-- Replaces the given spans. The answer is `none` when there is no span, which is not the same as
replacing spans by the text they cover. -/
def splice? (new : Replacement) (text : Text) : List Span → Option Text
  | [] => none
  | span :: more => some (splice text (new.edits text (span :: more)))

def describe : Replacement → Text
  | template text => "Template(".toList ++ Text.quoted text ++ ")".toList
  | computed _ => "Map(..)".toList

end Replacement

inductive Scope where
  | all
  | first
deriving DecidableEq, Repr

namespace Scope

def limit : Scope → Nat
  | all => 0
  | first => 1

def pick {α : Type} (scope : Scope) (found : List α) : List α :=
  if 0 < scope.limit then found.take scope.limit else found

end Scope

namespace Regex

/-- Copies the text from offset `last` on and puts new text in place of the matches, up to a limit.
`count` matches are replaced already. -/
def replaceFrom (new : Match → Text) (text : Text) (limit : Nat) :
    Nat → Nat → List Match → Text
  | _, last, [] => text.drop last
  | count, last, hit :: hits =>
    let copied := (Span.mk last hit.span.start).slice text ++ new hit
    if 0 < limit && limit ≤ count + 1 then copied ++ text.drop hit.span.stop
    else copied ++ replaceFrom new text limit (count + 1) hit.span.stop hits

/-- Replaces matches up to a limit. The answer is `none` when there is no match. -/
def replace? (expr : Regex) (new : Match → Text) (limit : Nat) (text : Text) : Option Text :=
  match expr.pattern.findAll text with
  | [] => none
  | hits => some (replaceFrom new text limit 0 0 hits)

end Regex

namespace Matcher

/-- Replaces every span, or only the first. A regular expression knows what its groups matched, and
replaces in its own way. -/
def replace? (matcher : Matcher) (new : Replacement) (scope : Scope) (text : Text) : Option Text :=
  match matcher with
  | regex expr => expr.replace? (fun hit => new.fill expr hit text) scope.limit text
  | _ => new.splice? text (scope.pick (matcher.spans text))

end Matcher

end Recast
