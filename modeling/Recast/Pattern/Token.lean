import Recast.Pattern.Flags
import Recast.Text.Name

/-!
The written form of a pattern, cut into tokens. A token still stands for what is written: what a
dot or an anchor means depends on the flags in force. Only white space and comments, which a
verbose pattern may hold between any two signs, are gone.
-/

namespace Recast

/-- The signs of a pattern. A bracketed class says how deep classes are nested in it. -/
inductive Token where
  | char (c : Char)
  | dot
  | lineStart
  | lineEnd
  | members (k : CharClass) (depth : Nat)
  | look (condition : Look)
  | openGroup (name : Option Text)
  | openPlain (switches : Switches)
  | switch (switches : Switches)
  | close
  | bar
  | bounds (b : Bounds)
deriving DecidableEq, Repr

namespace Token

def hexDigit? (c : Char) : Option Nat :=
  if '0' ≤ c && c ≤ '9' then some (c.toNat - '0'.toNat)
  else if 'a' ≤ c && c ≤ 'f' then some (c.toNat - 'a'.toNat + 10)
  else if 'A' ≤ c && c ≤ 'F' then some (c.toNat - 'A'.toNat + 10)
  else none

/-- The character that hexadecimal digits name. There must be a digit, and surrogates and numbers
past the last code point name nothing. -/
def charOfHex? (digits : Text) : Option Char := do
  if digits.isEmpty then none
  let n ← digits.foldlM (fun n c => (hexDigit? c).map (16 * n + ·)) 0
  if n.isValidChar then some (Char.ofNat n) else none

/-- Reads characters while `accepts` holds of them, with what a verbose pattern may hold between
them. The first argument tells whether the text begins inside a comment. -/
def readFrom (flags : Flags) (accepts : Char → Bool) : Bool → Text → Text × Text
  | _, [] => ([], [])
  | true, c :: rest => readFrom flags accepts (c != '\n') rest
  | false, c :: rest =>
    if flags.verbose && Text.isBlank c then readFrom flags accepts false rest
    else if flags.verbose && c = '#' then readFrom flags accepts true rest
    else if accepts c then
      let (run, after) := readFrom flags accepts false rest
      (c :: run, after)
    else ([], c :: rest)

def readRun (flags : Flags) (accepts : Char → Bool) (text : Text) : Text × Text :=
  readFrom flags accepts false text

def readSome (flags : Flags) : Nat → Text → Text × Text
  | 0, text => ([], text)
  | _ + 1, [] => ([], [])
  | count + 1, c :: rest =>
    let (run, after) := readSome flags count (flags.skip rest)
    (c :: run, after)

def readBraced (flags : Flags) (text : Text) : Option (Text × Text) :=
  match readRun flags (· != '\x7d') text with
  | (run, _ :: after) => some (run, after)
  | (_, []) => none

def readHex (flags : Flags) (width : Nat) (text : Text) : Option (Char × Text) :=
  match flags.skip text with
  | '\x7b' :: rest => do
    let (digits, after) ← readBraced flags (flags.skip rest)
    let c ← charOfHex? digits
    pure (c, after)
  | text => do
    let (digits, after) := readSome flags width text
    if digits.length < width then none
    let c ← charOfHex? digits
    pure (c, after)

inductive Escape where
  | char (c : Char)
  | byte (c : Char)
  | members (k : CharClass)
  | look (condition : Look)
deriving DecidableEq, Repr

def readBoundary (flags : Flags) (rest : Text) : Option (Look × Text) :=
  let isName (c : Char) : Bool := c.isAlpha || c = '-'
  match rest with
  | '\x7b' :: more =>
    let inner := flags.skip more
    match inner with
    | [] => none
    | c :: _ =>
      if isName c then
        match readRun flags isName inner with
        | (name, '\x7d' :: after) =>
          match String.ofList name with
          | "start" => some (.wordStart flags.alphabet, after)
          | "end" => some (.wordEnd flags.alphabet, after)
          | "start-half" => some (.noWordBefore flags.alphabet, after)
          | "end-half" => some (.noWordAfter flags.alphabet, after)
          | _ => none
        | _ => none
      else some (.wordEdge flags.alphabet, rest)
  | _ => some (.wordEdge flags.alphabet, rest)

def signClass? (flags : Flags) (wide narrow : CharClass) (negated : Bool) : Option CharClass :=
  if flags.unicode then some (if negated then .neg wide else wide)
  else if negated then none
  else some narrow

/-- The characters with a property that is asked for in braces, and whether those without it are
meant: the property is given by its name, or as a value behind a sign of equality or inequality. Of
two signs the one that is looked for first divides. -/
def propertyOf? (written : Text) : Option (Bool × List (Nat × Nat)) :=
  match Text.splitOnce? ['!', '='] written with
  | some (property, value) => (Text.Property.ofValue? property value).map (true, ·)
  | none =>
    match (Text.splitOnce? [':'] written).or (Text.splitOnce? ['='] written) with
    | some (property, value) => (Text.Property.ofValue? property value).map (false, ·)
    | none => (Text.Property.ofName? written).map (false, ·)

def readProperty (flags : Flags) (negated : Bool) (text : Text) : Option (CharClass × Text) := do
  let ((other, ranges), after) ←
    match flags.skip text with
    | [] => none
    | '\\' :: _ => none
    | '\x7b' :: rest => do
      let (written, after) ← readBraced flags (flags.skip rest)
      let property ← propertyOf? written
      pure (property, after)
    | c :: rest => do
      let ranges ← Text.Property.ofName? [c]
      pure ((false, ranges), rest)
  if !flags.unicode then none
  pure (if negated != other then .neg (.listed ranges) else .listed ranges, after)

def readEscape (flags : Flags) : Text → Option (Escape × Text)
  | [] => none
  | c :: rest =>
    let sign (wide narrow : CharClass) (negated : Bool) : Option (Escape × Text) :=
      (signClass? flags wide narrow negated).map fun k => (.members k, rest)
    let digits : CharClass := .range '0' '9'
    let spaces : CharClass := .ofRanges [('\t', '\r'), (' ', ' ')]
    let words : CharClass := .ofRanges [('0', '9'), ('A', 'Z'), ('_', '_'), ('a', 'z')]
    match c with
    | 'd' => sign .decimal digits false
    | 'D' => sign .decimal digits true
    | 's' => sign .blank spaces false
    | 'S' => sign .blank spaces true
    | 'w' => sign .word words false
    | 'W' => sign .word words true
    | 'p' => (readProperty flags false rest).map fun (k, after) => (.members k, after)
    | 'P' => (readProperty flags true rest).map fun (k, after) => (.members k, after)
    | 'a' => some (.char '\x07', rest)
    | 'f' => some (.char '\x0c', rest)
    | 't' => some (.char '\t', rest)
    | 'n' => some (.char '\n', rest)
    | 'r' => some (.char '\r', rest)
    | 'v' => some (.char '\x0b', rest)
    | 'A' => some (.look .textStart, rest)
    | 'z' => some (.look .textEnd, rest)
    | 'b' => (readBoundary flags rest).map fun (condition, after) => (.look condition, after)
    | 'B' => some (.look (.noWordEdge flags.alphabet), rest)
    | '<' => some (.look (.wordStart flags.alphabet), rest)
    | '>' => some (.look (.wordEnd flags.alphabet), rest)
    | 'x' =>
      let short := (flags.skip rest).head? != some '\x7b'
      (readHex flags 2 rest).map fun (named, after) =>
        (if short then .byte named else .char named, after)
    | 'u' => (readHex flags 4 rest).map fun (named, after) => (.char named, after)
    | 'U' => (readHex flags 8 rest).map fun (named, after) => (.char named, after)
    | _ => if c.toNat < 0x80 && !c.isAlphanum then some (.char c, rest) else none

def readMember (flags : Flags) : Text → Option (Escape × Text)
  | [] => none
  | '\\' :: rest => readEscape flags rest
  | c :: rest => some (.char c, rest)

def memberChar? (flags : Flags) : Escape → Option Char
  | .char c => if flags.unicode || c.toNat < 0x80 then some c else none
  | .byte c => if flags.unicode || c.toNat < 0x80 then some c else none
  | .members _ => none
  | .look _ => none

/-- The next sign behind the one in hand, as far as a range is concerned. In a verbose pattern
white space is passed over, and so is one number sign. -/
def peekBehind (flags : Flags) (rest : Text) : Option Char :=
  if flags.verbose then
    let further := rest.dropWhile Text.isBlank
    match further with
    | [] => rest.head?
    | '#' :: more =>
      match more.dropWhile Text.isBlank with
      | [] => rest.head?
      | c :: _ => some c
    | c :: _ => some c
  else rest.head?

/-- Reads one item of a bracketed class: a character, a class or a range. A hyphen before the
closing bracket, or doubled, makes no range. -/
def readItem (flags : Flags) (text : Text) : Option (CharClass × Text) := do
  let (first, rest) ← readMember flags text
  let rest := flags.skip rest
  let alone : Option (CharClass × Text) :=
    match first with
    | .members k => some (k, rest)
    | _ => (memberChar? flags first).map fun c => (.single c, rest)
  match rest with
  | '-' :: more =>
    if peekBehind flags more = some ']' || peekBehind flags more = some '-' then alone
    else do
      let (last, after) ← readMember flags (flags.skip more)
      let a ← memberChar? flags first
      let b ← memberChar? flags last
      if a.toNat ≤ b.toNat then pure (.range a b, after) else none
  | _ => alone

inductive SetOp where
  | both
  | minus
  | oneOf
deriving DecidableEq, Repr

structure Nested where
  members : CharClass
  depth : Nat
deriving DecidableEq, Repr

structure SetDraft where
  negated : Bool
  left : Option (Nested × SetOp)
  items : List Nested
deriving DecidableEq, Repr

namespace SetDraft

def add (draft : SetDraft) (item : Nested) : SetDraft :=
  { draft with items := item :: draft.items }

def union (draft : SetDraft) : Nested :=
  let deepest := draft.items.foldl (fun n item => max n item.depth) 0
  ⟨CharClass.union (draft.items.reverse.map (·.members)),
    if 1 < draft.items.length then deepest + 1 else deepest⟩

def combined (draft : SetDraft) : Nested :=
  let right := draft.union
  match draft.left with
  | none => right
  | some (left, op) =>
    let members :=
      match op with
      | .both => .both left.members right.members
      | .minus => .minus left.members right.members
      | .oneOf => .oneOf left.members right.members
    ⟨members, max left.depth right.depth + 1⟩

def operator (draft : SetDraft) (op : SetOp) : SetDraft :=
  { draft with left := some (draft.combined, op), items := [] }

def close? (flags : Flags) (draft : SetDraft) : Option Nested :=
  let inner := draft.combined
  if !draft.negated then some ⟨inner.members, inner.depth + 1⟩
  else if flags.unicode then some ⟨.neg inner.members, inner.depth + 1⟩
  else none

/-- Begins a class behind its opening bracket. Leading hyphens are members, and so is a closing
bracket that comes first. -/
def begin (flags : Flags) (text : Text) : SetDraft × Text :=
  let text := flags.skip text
  let negated := text.head? = some '^'
  let text := if negated then flags.skip (text.drop 1) else text
  let (hyphens, text) := readRun flags (· = '-') text
  let draft : SetDraft := ⟨negated, none, hyphens.map fun c => ⟨.single c, 0⟩⟩
  match text with
  | ']' :: rest =>
    if hyphens.isEmpty then (draft.add ⟨.single ']', 0⟩, flags.skip rest) else (draft, text)
  | _ => (draft, text)

end SetDraft

def readNamed (text : Text) : Option (Bool × CharClass × Text) :=
  match text with
  | ':' :: rest => do
    let negated := rest.head? = some '^'
    let rest := if negated then rest.drop 1 else rest
    let (name, after) ← Text.splitOnce? ":]".toList rest
    let k ← CharClass.named? (String.ofList name)
    pure (negated, k, after)
  | _ => none

def readSet (flags : Flags) : Nat → SetDraft → Text → Option (Nested × Text)
  | 0, _, _ => none
  | fuel + 1, draft, text =>
    match flags.skip text with
    | [] => none
    | ']' :: rest => (draft.close? flags).map fun nested => (nested, rest)
    | '[' :: rest =>
      match readNamed rest with
      | some (negated, k, after) =>
        if !negated then readSet flags fuel (draft.add ⟨k, 0⟩) after
        else if flags.unicode then readSet flags fuel (draft.add ⟨.neg k, 0⟩) after
        else none
      | none => do
        let (inner, body) := SetDraft.begin flags rest
        let (nested, after) ← readSet flags fuel inner body
        readSet flags fuel (draft.add nested) after
    | '&' :: '&' :: rest => readSet flags fuel (draft.operator .both) rest
    | '-' :: '-' :: rest => readSet flags fuel (draft.operator .minus) rest
    | '~' :: '~' :: rest => readSet flags fuel (draft.operator .oneOf) rest
    | text => do
      let (k, after) ← readItem flags text
      readSet flags fuel (draft.add ⟨k, 0⟩) after

def maxCount : Nat := 4294967295

def readCount (flags : Flags) (text : Text) : Option (Nat × Text) := do
  let text := Text.trimStart text
  let (digits, rest) := readRun flags Char.isDigit text
  let rest := flags.skip (Text.trimStart rest)
  if digits.isEmpty then none
  let n := digits.foldl (fun n c => 10 * n + (c.toNat - '0'.toNat)) 0
  if n ≤ maxCount then some (n, rest) else none

def readLazy : Text → Bool × Text
  | '?' :: rest => (true, rest)
  | text => (false, text)

def readCounted (flags : Flags) (text : Text) : Option (Bounds × Text) := do
  let (least, rest) ← readCount flags (flags.skip text)
  let (most, rest) ←
    match rest with
    | '\x7d' :: after => some (some least, after)
    | ',' :: more =>
      match flags.skip more with
      | '\x7d' :: after => some (none, after)
      | more => do
        let (most, rest) ← readCount flags more
        match rest with
        | '\x7d' :: after => some (some most, after)
        | _ => none
    | _ => none
  if most.any (· < least) then none
  let (lazy, after) := readLazy (flags.skip rest)
  pure (⟨least, most, lazy⟩, after)

/-- Reads flags up to the colon or closing bracket that ends them. No flag may be named twice, and
a minus must be followed by a flag. -/
def readSwitches : Bool → Switches → Text → Option (Switches × Text)
  | _, _, [] => none
  | negated, sofar, c :: rest =>
    if c = ':' || c = ')' then
      if negated && sofar.getLast?.all (·.2) then none else some (sofar, c :: rest)
    else if c = '-' then if negated then none else readSwitches true sofar rest
    else
      match Flag.ofChar? c with
      | none => none
      | some flag =>
        if sofar.any (·.1 = flag) then none
        else readSwitches negated (sofar ++ [(flag, !negated)]) rest

/-- The names of groups: a letter or an underscore, then also numbers, dots and square brackets. -/
def isGroupName : Text → Bool
  | [] => false
  | c :: rest =>
    (c = '_' || Text.isLetter c) &&
      rest.all fun c => c = '_' || c = '.' || c = '[' || c = ']' || Text.isLetterOrNumber c

def readOpening (flags : Flags) (text : Text) : Option (Token × Text) :=
  let named (rest : Text) : Option (Token × Text) := do
    let (name, after) ← Text.splitOnce? ['>'] rest
    if isGroupName name then some (.openGroup (some name), after) else none
  match flags.skip text with
  | '?' :: '=' :: _ => none
  | '?' :: '!' :: _ => none
  | '?' :: '<' :: '=' :: _ => none
  | '?' :: '<' :: '!' :: _ => none
  | '?' :: 'P' :: '<' :: rest => named rest
  | '?' :: '<' :: rest => named rest
  | '?' :: rest => do
    let (switches, after) ← readSwitches false [] rest
    match after with
    | ':' :: body => some (.openPlain switches, body)
    | ')' :: more => if switches.isEmpty then none else some (.switch switches, more)
    | _ => none
  | text => some (.openGroup none, text)

def ofEscape? (flags : Flags) : Escape → Option Token
  | .char c => some (.char c)
  | .byte c => if flags.unicode || c.toNat < 0x80 then some (.char c) else none
  | .members k => some (.members k 0)
  | .look condition => some (.look condition)

def read (fuel : Nat) (flags : Flags) : Text → Option (Token × Text)
  | [] => none
  | c :: rest =>
    match c with
    | '(' => readOpening flags rest
    | ')' => some (.close, rest)
    | '|' => some (.bar, rest)
    | '[' =>
      let (draft, body) := SetDraft.begin flags rest
      (readSet flags fuel draft body).map fun (nested, after) =>
        (.members nested.members nested.depth, after)
    | '?' =>
      let (lazy, after) := readLazy rest
      some (.bounds ⟨0, some 1, lazy⟩, after)
    | '*' =>
      let (lazy, after) := readLazy rest
      some (.bounds ⟨0, none, lazy⟩, after)
    | '+' =>
      let (lazy, after) := readLazy rest
      some (.bounds ⟨1, none, lazy⟩, after)
    | '\x7b' => (readCounted flags rest).map fun (b, after) => (.bounds b, after)
    | '.' => some (.dot, rest)
    | '^' => some (.lineStart, rest)
    | '$' => some (.lineEnd, rest)
    | '\\' => do
      let (escape, after) ← readEscape flags rest
      let token ← ofEscape? flags escape
      pure (token, after)
    | _ => some (.char c, rest)

end Token

end Recast
