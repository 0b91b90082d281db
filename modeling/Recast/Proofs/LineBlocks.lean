import Recast.Proofs.Greedy

/-! A block of lines is found where it stands as whole lines. The spans are the selection from left to
right among all such places, also where the block overlaps itself, or where it begins in the middle of a
line first. In a text with line feeds only, there is a span exactly if the lines of the block follow one
another among the lines of the text. -/

namespace Recast

namespace Text

def EndsInBreak (front : Text) : Prop := front = [] ∨ ∃ init, front = init ++ ['\n']

def BeginsWithBreak (after : Text) : Prop :=
  after = [] ∨ ['\n'] <+: after ∨ ['\r', '\n'] <+: after

theorem intercalate_append {mark : Char} {first second : List Text} (h₁ : first ≠ [])
    (h₂ : second ≠ []) :
    [mark].intercalate (first ++ second) =
      [mark].intercalate first ++ mark :: [mark].intercalate second := by
  induction first with
  | nil => exact absurd rfl h₁
  | cons line first ih =>
    cases first with
    | nil =>
      obtain ⟨next, second, rfl⟩ := List.exists_cons_of_ne_nil h₂
      simp [List.intercalate_cons_cons]
    | cons next first =>
      have hrest := ih (List.cons_ne_nil next first)
      simp only [List.cons_append, List.intercalate_cons_cons] at hrest ⊢
      rw [hrest]
      simp

end Text

namespace Matcher

/-- The block stands in the text as whole lines. -/
def WholeLines (block text : Text) (span : Span) : Prop :=
  ∃ front after, text = front ++ (block ++ after) ∧
    span = ⟨front.length, front.length + block.length⟩ ∧
    front.EndsInBreak ∧ after.BeginsWithBreak

theorem startsLine_iff {front : Text} {pos : Nat} {rest : Text} :
    startsLine ⟨pos, Text.lastFrom none front, rest⟩ = true ↔ front.EndsInBreak := by
  rcases List.eq_nil_or_concat front with rfl | ⟨init, c, rfl⟩
  · simp [startsLine, Text.EndsInBreak, Text.lastFrom]
  · simp [startsLine, Text.EndsInBreak, Text.lastFrom]

theorem endsLine_iff {after : Text} : endsLine after = true ↔ after.BeginsWithBreak := by
  simp [endsLine, Text.BeginsWithBreak, or_assoc]

theorem occurrence_lines_iff {block text : Text} {span : Span} :
    Occurrence block (fun here after => startsLine here && endsLine after) text span ↔
      WholeLines block text span := by
  simp only [Occurrence, WholeLines, Bool.and_eq_true, startsLine_iff, endsLine_iff]

/-- The spans of a block are the selection from left to right among the places where it stands as whole
lines. -/
theorem greedy_lines_iff {block : List Text} (h : blockText block ≠ []) (text : Text)
    (spans : List Span) :
    Greedy (WholeLines (blockText block) text) 0 text.length spans ↔
      spans = (lines block).spans text := by
  have hclass : WholeLines (blockText block) text =
      Occurrence (blockText block) (fun here after => startsLine here && endsLine after) text :=
    funext fun span => propext occurrence_lines_iff.symm
  rw [hclass]
  exact greedy_text_iff h text spans

theorem isMatch_lines_iff {block : List Text} (h : blockText block ≠ []) (text : Text) :
    (lines block).isMatch text = true ↔ ∃ span, WholeLines (blockText block) text span := by
  have hnone := ((greedy_lines_iff h text _).mpr rfl).eq_nil_iff
  rw [isMatch_eq, find?_eq_head?, List.isSome_head?, ne_eq, hnone]
  simp

theorem exists_wholeLines_iff {block : List Text} {text : Text} (h : blockText block ≠ [])
    (hreturn : '\r' ∉ text) (hblock : ∀ line ∈ block, '\n' ∉ line) :
    (∃ span, WholeLines (blockText block) text span) ↔ block <:+: text.splitOn '\n' := by
  have hne : block ≠ [] := by
    rintro rfl
    exact h rfl
  have hsplit : (blockText block).splitOn '\n' = block := List.splitOn_intercalate _ hblock hne
  constructor
  · rintro ⟨span, front, after, rfl, -, hfront, hafter⟩
    -- What stands behind the front is cut into the lines of the block and those behind it.
    obtain ⟨behind, hbehind⟩ : ∃ behind, (blockText block ++ after).splitOn '\n' = block ++ behind := by
      rcases hafter with rfl | ⟨rest, rfl⟩ | ⟨rest, rfl⟩
      · exact ⟨[], by rw [List.append_nil, List.append_nil, hsplit]⟩
      · refine ⟨rest.splitOn '\n', ?_⟩
        rw [List.singleton_append, List.splitOn_append_cons_self, hsplit]
      · exact absurd (by simp) hreturn
    rcases hfront with rfl | ⟨init, rfl⟩
    · exact ⟨[], behind, by rw [List.nil_append, List.nil_append, hbehind]⟩
    · refine ⟨init.splitOn '\n', behind, ?_⟩
      rw [List.append_assoc init, List.singleton_append, List.splitOn_append_cons_self, hbehind,
        List.append_assoc]
  · rintro ⟨before, behind, hlines⟩
    obtain ⟨front, hfront, hjoined⟩ : ∃ front : Text, front.EndsInBreak ∧
        ['\n'].intercalate (before ++ (block ++ behind)) =
          front ++ ['\n'].intercalate (block ++ behind) := by
      by_cases hbefore : before = []
      · exact ⟨[], .inl rfl, by rw [hbefore]; rfl⟩
      · refine ⟨['\n'].intercalate before ++ ['\n'], .inr ⟨_, rfl⟩, ?_⟩
        rw [Text.intercalate_append hbefore (by simp [hne])]
        simp
    obtain ⟨after, hafter, hrest⟩ : ∃ after : Text, after.BeginsWithBreak ∧
        ['\n'].intercalate (block ++ behind) = blockText block ++ after := by
      by_cases hbehind : behind = []
      · exact ⟨[], .inl rfl, by rw [hbehind, List.append_nil, List.append_nil]; rfl⟩
      · refine ⟨'\n' :: ['\n'].intercalate behind, .inr (.inl ⟨_, rfl⟩), ?_⟩
        rw [Text.intercalate_append hne hbehind]
        rfl
    have htext : text = front ++ (blockText block ++ after) := by
      rw [← hrest, ← hjoined, ← List.append_assoc, hlines, List.intercalate_splitOn]
    exact ⟨_, front, after, htext, rfl, hfront, hafter⟩

/-- What a matcher for a block of lines finds in a text. -/
structure FindsWholeLines (block : List Text) (text : Text) : Prop where
  terminates : Bytes.lineSpans? (String.ofList text) (blockText block) =
    some ((lines block).byteSpans text)
  greedy : ∀ spans, Greedy (WholeLines (blockText block) text) 0 text.length spans ↔
    spans = (lines block).spans text
  run : '\r' ∉ text → (∀ line ∈ block, '\n' ∉ line) →
    ((lines block).isMatch text = true ↔ block <:+: text.splitOn '\n')

/-- A block that is not empty is found where it stands as whole lines. -/
theorem lines_find_whole_lines (block : List Text) (text : Text) (h : blockText block ≠ []) :
    FindsWholeLines block text where
  terminates := Bytes.lineSpans?_eq text (blockText block)
  greedy := greedy_lines_iff h text
  run hreturn hblock := by
    rw [isMatch_lines_iff h, exists_wholeLines_iff h hreturn hblock]

/-- Wide characters, an occurrence in the middle of a line, and two whole ones that overlap. -/
theorem lines_find_whole_lines_overlap :
    blockText ["é".toList, "é".toList] ≠ [] ∧
      Greedy (WholeLines "é\né".toList "xé\né\né\né\n".toList) 0 9 [⟨3, 6⟩] ∧
      Bytes.lineSpans? (String.ofList "xé\né\né\né\n".toList) "é\né".toList = some [⟨4, 9⟩] ∧
      ["é".toList, "é".toList] <:+: "xé\né\né\né\n".toList.splitOn '\n' := by
  have hne : blockText ["é".toList, "é".toList] ≠ [] := by decide
  have hfound := lines_find_whole_lines ["é".toList, "é".toList] "xé\né\né\né\n".toList hne
  refine ⟨hne, (hfound.greedy [⟨3, 6⟩]).mpr ?_, hfound.terminates.trans ?_,
    (hfound.run ?_ ?_).mp ?_⟩
  all_goals decide +kernel

end Matcher

end Recast
