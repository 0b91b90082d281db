import Recast.Diff
import Recast.Proofs.Diff.Patch
import Recast.Proofs.Text

/-! Reading diffs. A diff names two files in its first two lines, and hunks follow, each with as many
lines as its header says. What a diff of two texts shows is read back as it was printed. -/

namespace Recast.Diff

/-! ### Headers of hunks -/

def readNumber (text : Text) : Option (Nat × Text) :=
  let digits := text.takeWhile Char.isDigit
  if digits = [] then none else some (Nat.ofDigitChars 10 digits 0, text.dropWhile Char.isDigit)

def readSize : Text → Option (Nat × Text)
  | ',' :: rest => readNumber rest
  | rest => some (1, rest)

/-- One side of a hunk's header: the index of its first line and the number of lines. A side without
lines says after which line it stands. -/
def readRange (text : Text) : Option ((Nat × Nat) × Text) := do
  let (first, rest) ← readNumber text
  let (size, rest) ← readSize rest
  if size = 0 then some ((first, 0), rest)
  else if first = 0 then none
  else some ((first - 1, size), rest)

def readHeader (line : Text) : Option (Hunk Text) := do
  let rest ← Text.stripStart? "@@ -".toList line
  let ((oldStart, oldSize), rest) ← readRange rest
  let rest ← Text.stripStart? " +".toList rest
  let ((newStart, newSize), rest) ← readRange rest
  if rest = " @@\n".toList then some ⟨oldStart, oldSize, newStart, newSize, []⟩ else none

section

variable {rest : Text}

theorem readNumber_ofNat (n : Nat) (h : ∀ c ∈ rest.head?, c.isDigit = false) :
    readNumber (Text.ofNat n ++ rest) = some (n, rest) := by
  have hdigits : ∀ c ∈ Text.ofNat n, c.isDigit = true := fun c hc =>
    Nat.isDigit_of_mem_toDigits (by decide) (by decide) hc
  have hne : Text.ofNat n ≠ [] := Nat.toDigits_ne_nil
  rw [readNumber, Text.takeWhile_append hdigits h, Text.dropWhile_append hdigits h, if_neg hne,
    Text.ofNat, Nat.ofDigitChars_ten_toDigits]

theorem readSize_text (size : Nat) (h : rest.head? = some ' ') :
    readSize ((if size = 1 then [] else ',' :: Text.ofNat size) ++ rest) = some (size, rest) := by
  obtain ⟨more, rfl⟩ := List.head?_eq_some_iff.mp h
  split
  next hone =>
    rw [hone]
    rfl
  next => exact readNumber_ofNat size (by rintro c ⟨⟩; rfl)

theorem readRange_rangeText (start size : Nat) (h : rest.head? = some ' ') :
    readRange (rangeText start size ++ rest) = some ((start, size), rest) := by
  have hmark : ∀ c ∈ ((if size = 1 then [] else ',' :: Text.ofNat size) ++ rest).head?,
      c.isDigit = false := by
    obtain ⟨more, rfl⟩ := List.head?_eq_some_iff.mp h
    split
    all_goals
      rintro c ⟨⟩
      rfl
  rw [rangeText, List.append_assoc, readRange, readNumber_ofNat _ hmark]
  simp only [Option.bind_eq_bind, Option.bind_some, readSize_text size h]
  by_cases hsize : size = 0
  · simp [hsize]
  · simp [hsize]

theorem headerText_eq (hunk : Hunk Text) : headerText hunk = "@@ -".toList ++
    (rangeText hunk.oldStart hunk.oldSize ++ (" +".toList ++
      (rangeText hunk.newStart hunk.newSize ++ " @@\n".toList))) :=
  calc
    headerText hunk = "@@ -".toList ++ rangeText hunk.oldStart hunk.oldSize ++ " +".toList ++
        rangeText hunk.newStart hunk.newSize ++ " @@\n".toList := rfl
    _ = _ := by simp only [List.append_assoc]

theorem readHeader_headerText (hunk : Hunk Text) :
    readHeader (headerText hunk) = some { hunk with lines := [] } := by
  have hplus : (" +".toList ++ (rangeText hunk.newStart hunk.newSize ++ " @@\n".toList)).head? =
      some ' ' := rfl
  have hclose : " @@\n".toList.head? = some ' ' := rfl
  rw [readHeader, headerText_eq]
  simp only [Text.stripStart?_append, Option.bind_eq_bind, Option.bind_some,
    readRange_rangeText _ _ hplus, readRange_rangeText _ _ hclose, if_true]

end

/-! ### Lines of hunks -/

def noBreakLine : Text := "\\ No newline at end of file\n".toList

theorem noLineBreak_eq : noLineBreak = '\n' :: noBreakLine := rfl

namespace HunkLine

variable (line : HunkLine Text)

def marked : HunkLine Text → Text
  | context line => if line = ['\n'] then line else ' ' :: line
  | delete line => '-' :: line
  | insert line => '+' :: line

def printed : List Text :=
  if line.marked.getLast? = some '\n' then [line.marked] else [line.marked ++ ['\n'], noBreakLine]

theorem signed_eq {sign : Char} (hsign : sign ≠ '\n') (line : Text) : signed sign line =
    (if (sign :: line).getLast? = some '\n' then [sign :: line]
      else [sign :: line ++ ['\n'], noBreakLine]).flatten := by
  have hlast : (sign :: line).getLast? = some '\n' ↔ line.getLast? = some '\n' := by
    cases line with
    | nil => simp [hsign]
    | cons c line => rw [List.getLast?_cons_cons]
  rw [signed]
  simp only [hlast]
  split
  · simp
  · simp [noLineBreak_eq]

theorem lineText_eq : lineText line = line.printed.flatten := by
  cases line with
  | context line =>
    by_cases hbreak : line = ['\n']
    · rw [hbreak]
      rfl
    · rw [lineText, printed, marked, if_neg hbreak, if_neg hbreak, signed_eq (by decide)]
  | delete line => exact signed_eq (by decide) line
  | insert line => exact signed_eq (by decide) line

theorem marked_ne_noBreakLine (rest : Text) : line.marked ++ rest ≠ noBreakLine := by
  cases line with
  | context line =>
    rw [marked]
    split
    next hbreak =>
      rw [hbreak]
      rintro ⟨⟩
    next => rintro ⟨⟩
  | delete line => rintro ⟨⟩
  | insert line => rintro ⟨⟩

end HunkLine

def readLine : Text → Option (HunkLine Text)
  | ['\n'] => some (.context ['\n'])
  | ' ' :: line => some (.context line)
  | '-' :: line => some (.delete line)
  | '+' :: line => some (.insert line)
  | _ => none

theorem readLine_marked (line : HunkLine Text) : readLine line.marked = some line := by
  cases line with
  | context line =>
    rw [HunkLine.marked]
    split
    next hbreak =>
      rw [hbreak]
      rfl
    next => rfl
  | delete line => rfl
  | insert line => rfl

def joinMarks : List Text → List Text
  | line :: mark :: more =>
    if mark = noBreakLine then line.dropLast :: joinMarks more else line :: joinMarks (mark :: more)
  | lines => lines

section

variable {more : List Text}

theorem joinMarks_cons (line : Text) (h : more.head? ≠ some noBreakLine) :
    joinMarks (line :: more) = line :: joinMarks more := by
  cases more with
  | nil => rfl
  | cons mark more =>
    have hmark : mark ≠ noBreakLine := fun heq => h (congrArg some heq)
    rw [joinMarks, if_neg hmark]

theorem joinMarks_printed (line : HunkLine Text) (h : more.head? ≠ some noBreakLine) :
    joinMarks (line.printed ++ more) = line.marked :: joinMarks more := by
  rw [HunkLine.printed]
  split
  · exact joinMarks_cons _ h
  · rw [List.cons_append, List.cons_append, joinMarks, if_pos rfl, List.dropLast_concat]
    rfl

theorem head?_printed_ne (lines : List (HunkLine Text)) (h : more.head? ≠ some noBreakLine) :
    (lines.flatMap HunkLine.printed ++ more).head? ≠ some noBreakLine := by
  cases lines with
  | nil => exact h
  | cons line lines =>
    rw [List.flatMap_cons, HunkLine.printed]
    split
    · intro heq
      refine line.marked_ne_noBreakLine [] ?_
      rw [List.append_nil]
      exact Option.some.inj heq
    · intro heq
      exact line.marked_ne_noBreakLine _ (Option.some.inj heq)

theorem joinMarks_flatMap_printed (lines : List (HunkLine Text))
    (h : more.head? ≠ some noBreakLine) :
    joinMarks (lines.flatMap HunkLine.printed ++ more) =
      lines.map HunkLine.marked ++ joinMarks more := by
  induction lines with
  | nil => rfl
  | cons line lines ih =>
    rw [List.flatMap_cons, List.append_assoc, joinMarks_printed line (head?_printed_ne lines h), ih]
    rfl

end

/-! ### Hunks -/

namespace Hunk

variable (hunk : Hunk Text)

def printed : List Text := headerText hunk :: hunk.lines.flatMap HunkLine.printed

def marked : List Text := headerText hunk :: hunk.lines.map HunkLine.marked

theorem hunkText_eq : hunkText hunk = hunk.printed.flatten := by
  rw [hunkText, printed, List.flatten_cons, List.flatMap_def, List.flatMap_def, List.flatten_flatten,
    List.map_map, funext HunkLine.lineText_eq]
  rfl

theorem flatMap_hunkText (hunks : List (Hunk Text)) :
    hunks.flatMap hunkText = (hunks.flatMap printed).flatten := by
  rw [List.flatMap_def, List.flatMap_def, List.flatten_flatten, List.map_map, funext hunkText_eq]
  rfl

theorem head?_flatMap_printed_ne (hunks : List (Hunk Text)) :
    (hunks.flatMap printed).head? ≠ some noBreakLine := by
  cases hunks with
  | nil => rintro ⟨⟩
  | cons hunk hunks =>
    intro heq
    have hheader : headerText hunk = noBreakLine := Option.some.inj heq
    rw [headerText_eq] at hheader
    cases hheader

theorem joinMarks_printed (hunks : List (Hunk Text)) :
    joinMarks (hunks.flatMap printed) = hunks.flatMap marked := by
  induction hunks with
  | nil => rfl
  | cons hunk hunks ih =>
    have hrest := head?_flatMap_printed_ne hunks
    rw [List.flatMap_cons, List.flatMap_cons, printed, marked, List.cons_append, List.cons_append,
      joinMarks_cons _ (head?_printed_ne hunk.lines hrest), joinMarks_flatMap_printed _ hrest, ih]

def complete : Bool := hunk.oldSize ≤ hunk.old.length && hunk.newSize ≤ hunk.new.length

end Hunk

/-- The hunks of a diff from inside of one on, which is given with the lines read so far. -/
def readHunksFrom (hunk : Hunk Text) : List Text → Option (List (Hunk Text))
  | [] => if hunk.complete then some [hunk] else none
  | line :: more =>
    if hunk.complete then do
      let next ← readHeader line
      let hunks ← readHunksFrom next more
      some (hunk :: hunks)
    else do
      let next ← readLine line
      readHunksFrom { hunk with lines := hunk.lines ++ [next] } more

def readHunks : List Text → Option (List (Hunk Text))
  | [] => some []
  | line :: more => do
    let hunk ← readHeader line
    readHunksFrom hunk more

section

variable {hunk : Hunk Text}

theorem Hunk.Sized.complete (h : hunk.Sized) : hunk.complete = true := by
  simp [Hunk.complete, h.oldSize, h.newSize]

theorem Hunk.Sized.not_complete (h : hunk.Sized) {done left : List (HunkLine Text)}
    {line : HunkLine Text} (hlines : hunk.lines = done ++ line :: left) :
    ({ hunk with lines := done } : Hunk Text).complete = false := by
  have hline := line.length_pos
  have hold := h.oldSize
  have hnew := h.newSize
  simp only [Hunk.old, Hunk.new, hlines, List.flatMap_append, List.flatMap_cons,
    List.length_append] at hold hnew
  refine Bool.eq_false_iff.mpr fun hcomplete => ?_
  obtain ⟨hdone, hdone'⟩ := Bool.and_eq_true_iff.mp hcomplete
  have hdone : hunk.oldSize ≤ (done.flatMap HunkLine.old).length := of_decide_eq_true hdone
  have hdone' : hunk.newSize ≤ (done.flatMap HunkLine.new).length := of_decide_eq_true hdone'
  omega

theorem readHunksFrom_lines (h : hunk.Sized) (more : List Text) {done left : List (HunkLine Text)}
    (hlines : hunk.lines = done ++ left) :
    readHunksFrom { hunk with lines := done } (left.map HunkLine.marked ++ more) =
      readHunksFrom hunk more := by
  induction left generalizing done with
  | nil =>
    obtain rfl : hunk.lines = done := hlines.trans (List.append_nil done)
    rfl
  | cons line left ih =>
    rw [List.map_cons, List.cons_append, readHunksFrom, if_neg (by simp [h.not_complete hlines]),
      readLine_marked]
    exact ih (hlines.trans (List.append_cons done line left))

theorem readHunksFrom_marked (h : hunk.Sized) {hunks : List (Hunk Text)}
    (hsized : ∀ next ∈ hunks, next.Sized) :
    readHunksFrom hunk (hunks.flatMap Hunk.marked) = some (hunk :: hunks) := by
  induction hunks generalizing hunk with
  | nil => rw [List.flatMap_nil, readHunksFrom, if_pos h.complete]
  | cons next hunks ih =>
    have hnext := hsized next List.mem_cons_self
    have hrest := ih hnext fun next hmem => hsized next (List.mem_cons_of_mem _ hmem)
    rw [List.flatMap_cons, Hunk.marked, List.cons_append, readHunksFrom, if_pos h.complete,
      readHeader_headerText, Option.bind_eq_bind, Option.bind_some,
      readHunksFrom_lines hnext _ (List.nil_append _).symm, hrest]
    rfl

theorem readHunks_printed {hunks : List (Hunk Text)} (hsized : ∀ hunk ∈ hunks, hunk.Sized) :
    readHunks (joinMarks (hunks.flatMap Hunk.printed)) = some hunks := by
  rw [Hunk.joinMarks_printed]
  cases hunks with
  | nil => rfl
  | cons hunk hunks =>
    have hfirst := hsized hunk List.mem_cons_self
    rw [List.flatMap_cons, Hunk.marked, List.cons_append, readHunks, readHeader_headerText,
      Option.bind_eq_bind, Option.bind_some,
      readHunksFrom_lines hfirst _ (List.nil_append _).symm]
    exact readHunksFrom_marked hfirst fun next hmem => hsized next (List.mem_cons_of_mem _ hmem)

end

/-! ### Printed lines -/

structure Plain (text : Text) : Prop where
  newline : '\n' ∉ text
  carriage : '\r' ∉ text

theorem Plain.append {first second : Text} (h : Plain first) (h' : Plain second) :
    Plain (first ++ second) where
  newline := List.not_mem_append h.newline h'.newline
  carriage := List.not_mem_append h.carriage h'.carriage

theorem plain_ofNat (n : Nat) : Plain (Text.ofNat n) where
  newline hmem := by cases Nat.isDigit_of_mem_toDigits (by decide) (by decide) hmem
  carriage hmem := by cases Nat.isDigit_of_mem_toDigits (by decide) (by decide) hmem

theorem plain_rangeText (start size : Nat) : Plain (rangeText start size) := by
  refine (plain_ofNat _).append ?_
  split
  · exact ⟨List.not_mem_nil, List.not_mem_nil⟩
  · have hcomma : Plain [','] := ⟨by decide, by decide⟩
    exact hcomma.append (plain_ofNat size)

theorem headerText_body (hunk : Hunk Text) :
    ∃ body, Plain body ∧ headerText hunk = body ++ ['\n'] := by
  refine ⟨"@@ -".toList ++ (rangeText hunk.oldStart hunk.oldSize ++ (" +".toList ++
    (rangeText hunk.newStart hunk.newSize ++ " @@".toList))), ?_, ?_⟩
  · have hfirst : Plain "@@ -".toList := ⟨by decide, by decide⟩
    have hplus : Plain " +".toList := ⟨by decide, by decide⟩
    have hclose : Plain " @@".toList := ⟨by decide, by decide⟩
    exact hfirst.append ((plain_rangeText _ _).append (hplus.append
      ((plain_rangeText _ _).append hclose)))
  · have hclose : " @@\n".toList = " @@".toList ++ ['\n'] := rfl
    rw [headerText_eq, hclose]
    simp only [List.append_assoc]

namespace HunkLine

variable {line : HunkLine Text}

theorem marked_cases (line : HunkLine Text) : line.marked = line.item ∧ line.item = ['\n'] ∨
    ∃ sign, Plain [sign] ∧ line.marked = sign :: line.item := by
  cases line with
  | context line =>
    rw [marked, item]
    split
    next hbreak => exact .inl ⟨rfl, hbreak⟩
    next => exact .inr ⟨' ', ⟨by decide, by decide⟩, rfl⟩
  | delete line => exact .inr ⟨'-', ⟨by decide, by decide⟩, rfl⟩
  | insert line => exact .inr ⟨'+', ⟨by decide, by decide⟩, rfl⟩

theorem isLine_marked (h : Text.IsLine line.item) : Text.IsLine line.marked := by
  rcases line.marked_cases with ⟨hmarked, -⟩ | ⟨sign, hsign, hmarked⟩
  · rwa [hmarked]
  · rw [hmarked]
    exact h.cons (by rintro rfl; exact hsign.newline List.mem_cons_self)

theorem isLine_of_mem_printed (h : Text.IsLine line.item ∨ '\n' ∉ line.item) :
    ∀ shown ∈ line.printed, Text.IsLine shown := by
  rw [printed]
  rcases h with h | h
  · rw [if_pos (isLine_marked h).getLast?]
    exact List.forall_mem_singleton.mpr (isLine_marked h)
  · have hmarked : '\n' ∉ line.marked := by
      rcases line.marked_cases with ⟨hmarked, -⟩ | ⟨sign, hsign, hmarked⟩
      · rwa [hmarked]
      · rw [hmarked]
        exact List.not_mem_append hsign.newline h
    rw [if_neg fun hlast => hmarked (List.mem_of_getLast? hlast)]
    refine List.forall_mem_cons.mpr ⟨⟨_, hmarked, rfl⟩, List.forall_mem_singleton.mpr ?_⟩
    exact ⟨noBreakLine.dropLast, by decide, by decide⟩

theorem carriage_notin_printed (h : '\r' ∉ line.item) : ∀ shown ∈ line.printed, '\r' ∉ shown := by
  have hmarked : '\r' ∉ line.marked := by
    rcases line.marked_cases with ⟨hmarked, -⟩ | ⟨sign, hsign, hmarked⟩
    · rwa [hmarked]
    · rw [hmarked]
      exact List.not_mem_append hsign.carriage h
  rw [printed]
  split
  · exact List.forall_mem_singleton.mpr hmarked
  · refine List.forall_mem_cons.mpr ⟨List.not_mem_append hmarked (by decide), ?_⟩
    exact List.forall_mem_singleton.mpr (by decide)

end HunkLine

def Hunk.FromTexts (hunk : Hunk Text) : Prop :=
  ∀ line ∈ hunk.lines, Text.IsLine line.item ∨ '\n' ∉ line.item

theorem Hunk.FromTexts.isLine {hunk : Hunk Text} (h : hunk.FromTexts) :
    ∀ shown ∈ hunk.printed, Text.IsLine shown := by
  refine List.forall_mem_cons.mpr ⟨?_, fun shown hshown => ?_⟩
  · obtain ⟨body, hplain, heq⟩ := headerText_body hunk
    exact ⟨body, hplain.newline, heq⟩
  · obtain ⟨line, hline, hshown⟩ := List.mem_flatMap.mp hshown
    exact line.isLine_of_mem_printed (h line hline) shown hshown

/-! ### Patches -/

structure Patch where
  oldName : Text
  newName : Text
  hunks : List (Hunk Text)
deriving DecidableEq, Repr

namespace Patch

variable (patch : Patch)

def flip : Patch := ⟨patch.newName, patch.oldName, patch.hunks.map Hunk.flip⟩

def apply (text : Text) : Option Text :=
  (applyHunks 0 0 (Text.lines text) patch.hunks).map List.flatten

def readName (lead line : Text) : Option Text :=
  (Text.stripStart? lead line).bind (Text.stripLast? '\n')

def read? (diff : Text) : Option Patch :=
  match Text.lines diff with
  | oldLine :: newLine :: more => do
    let oldName ← readName "--- ".toList oldLine
    let newName ← readName "+++ ".toList newLine
    let hunks ← readHunks (joinMarks more)
    some ⟨oldName, newName, hunks⟩
  | _ => none

def text : Text :=
  "--- ".toList ++ patch.oldName ++ ['\n'] ++ ("+++ ".toList ++ patch.newName ++ ['\n'] ++
    patch.hunks.flatMap hunkText)

@[simp]
theorem flip_hunks : patch.flip.hunks = patch.hunks.map Hunk.flip := rfl

theorem text_eq : patch.text = "--- ".toList ++ patch.oldName ++ ['\n'] ++
    ("+++ ".toList ++ patch.newName ++ ['\n'] ++ patch.hunks.flatMap hunkText) := rfl

theorem readName_append (lead name : Text) : readName lead (lead ++ name ++ ['\n']) = some name := by
  rw [readName, List.append_assoc, Text.stripStart?_append, Option.bind_some, Text.stripLast?,
    List.getLast?_concat, if_pos rfl, List.dropLast_concat]

variable {patch}

/-- A diff that shows a patch is read as that patch. -/
theorem read?_text (hold : '\n' ∉ patch.oldName) (hnew : '\n' ∉ patch.newName)
    (hsized : ∀ hunk ∈ patch.hunks, hunk.Sized) (hlines : ∀ hunk ∈ patch.hunks, hunk.FromTexts) :
    read? patch.text = some patch := by
  have hminus : Text.IsLine ("--- ".toList ++ patch.oldName ++ ['\n']) :=
    ⟨_, List.not_mem_append (by decide) hold, rfl⟩
  have hplus : Text.IsLine ("+++ ".toList ++ patch.newName ++ ['\n']) :=
    ⟨_, List.not_mem_append (by decide) hnew, rfl⟩
  have hhunks : ∀ shown ∈ patch.hunks.flatMap Hunk.printed, Text.IsLine shown := by
    intro shown hshown
    obtain ⟨hunk, hhunk, hshown⟩ := List.mem_flatMap.mp hshown
    exact (hlines hunk hhunk).isLine shown hshown
  have htext : Text.lines patch.text = ("--- ".toList ++ patch.oldName ++ ['\n']) ::
      ("+++ ".toList ++ patch.newName ++ ['\n']) :: patch.hunks.flatMap Hunk.printed := by
    rw [text_eq, Text.lines_append hminus, Text.lines_append hplus, Hunk.flatMap_hunkText,
      Text.lines_flatten hhunks]
  rw [read?, htext]
  simp only [readName_append, readHunks_printed hsized, Option.bind_eq_bind, Option.bind_some]

end Patch

end Recast.Diff
