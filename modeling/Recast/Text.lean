/-!
Text as a list of characters. Offsets inside the library count characters; `byteSize` and
`byteOffsets` give the UTF-8 measure that reports use. Every function recurses on the text itself,
so closed instances evaluate in the kernel.
-/

namespace Recast

abbrev Text := List Char

namespace Text

/-- `needle.within text`: the needle occurs somewhere in the text. The empty needle always does. -/
def within (needle : Text) : Text → Bool
  | [] => needle.isEmpty
  | c :: rest => needle.isPrefixOf (c :: rest) || needle.within rest

/-- The text before the first occurrence of `needle` and the text from that occurrence on. -/
def splitBefore? (needle : Text) : Text → Option (Text × Text)
  | [] => if needle.isEmpty then some ([], []) else none
  | c :: rest =>
    if needle.isPrefixOf (c :: rest) then some ([], c :: rest)
    else (needle.splitBefore? rest).map fun cut => (c :: cut.1, cut.2)

def splitOnce? (needle text : Text) : Option (Text × Text) :=
  (needle.splitBefore? text).map fun cut => (cut.1, cut.2.drop needle.length)

def splitLast? (mark : Char) : Text → Option (Text × Text)
  | [] => none
  | c :: rest =>
    match splitLast? mark rest with
    | some (before, after) => some (c :: before, after)
    | none => if c = mark then some ([], rest) else none

def stripStart? (lead text : Text) : Option Text :=
  if lead.isPrefixOf text then some (text.drop lead.length) else none

def stripLast? (mark : Char) (text : Text) : Option Text :=
  if text.getLast? = some mark then some text.dropLast else none

def dropEndWhile (p : Char → Bool) (text : Text) : Text :=
  (text.reverse.dropWhile p).reverse

def byteSize (text : Text) : Nat :=
  (text.map Char.utf8Size).foldl (· + ·) 0

def byteOffsets (text : Text) : Array Nat :=
  text.foldl (fun offsets c => offsets.push (offsets.back?.getD 0 + c.utf8Size)) #[0]

/-- Lines with their terminators: the text is cut after every line feed and nowhere else, so the
last line may lack one and an empty text has no line. -/
def lines : Text → List Text
  | [] => []
  | c :: rest =>
    if c = '\n' then ['\n'] :: lines rest
    else
      match lines rest with
      | [] => [[c]]
      | line :: more => (c :: line) :: more

/-- A line without its terminator: a final `\n`, and a `\r` directly before it, are dropped. -/
def chomp (line : Text) : Text :=
  match stripLast? '\n' line with
  | none => line
  | some body => (stripLast? '\r' body).getD body

def ofNat (n : Nat) : Text := Nat.toDigits 10 n

@[simp]
theorem within_nil_left (text : Text) : within [] text = true := by
  cases text <;> simp [within]

theorem within_iff_isInfix (needle text : Text) : needle.within text = true ↔ needle <:+: text := by
  induction text with
  | nil => cases needle <;> simp [within]
  | cons c rest ih =>
    rw [within, Bool.or_eq_true, ih, List.isPrefixOf_iff_prefix, List.infix_cons_iff]

theorem flatten_lines (text : Text) : text.lines.flatten = text := by
  induction text with
  | nil => rfl
  | cons c rest ih =>
    unfold lines
    split
    · rename_i h
      simp [ih, h]
    · split
      · rename_i h
        rw [h] at ih
        simp [← ih]
      · rename_i h
        rw [h] at ih
        simp [← ih]

end Text

end Recast
