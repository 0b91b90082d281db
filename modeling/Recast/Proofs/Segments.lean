import Mathlib.Data.List.Forall2
import Recast.Proofs.Pattern.Walls

/-! Texts that are cut at every mark. If every match of a pattern and what comes in its place end with
their only mark, a sweep goes from one such piece to the next: it turns every piece that a mark follows
into one piece, and leaves what stands behind the last mark. -/

namespace Recast

namespace Text

/-- What holds of texts without the mark, and of a text if it holds of what follows its first mark,
holds of every text. -/
@[elab_as_elim]
theorem mark_induction (mark : Char) {motive : Text → Prop}
    (last : ∀ text, mark ∉ text → motive text)
    (cons : ∀ segment text, mark ∉ segment → motive text → motive (segment ++ mark :: text))
    (text : Text) : motive text := by
  induction hn : text.length using Nat.strongRecOn generalizing text with
  | ind n ih =>
    by_cases hmark : mark ∈ text
    · obtain ⟨segment, rest, rfl, hsegment⟩ := List.eq_append_cons_of_mem hmark
      refine cons segment rest hsegment (ih rest.length ?_ rest rfl)
      rw [← hn, List.length_append, List.length_cons]
      omega
    · exact last text hmark

theorem splitOn_append {mark : Char} {first : Text} (h : mark ∉ first) (second : Text) :
    ∃ head tail, second.splitOn mark = head :: tail ∧
      (first ++ second).splitOn mark = (first ++ head) :: tail := by
  induction second using Text.mark_induction mark with
  | last second hsecond =>
    refine ⟨second, [], List.splitOn_eq_singleton hsecond, List.splitOn_eq_singleton ?_⟩
    simp [h, hsecond]
  | cons segment rest hsegment =>
    refine ⟨segment, rest.splitOn mark, ?_, ?_⟩
    · rw [List.splitOn_append_cons_self, List.splitOn_eq_singleton hsegment]
      rfl
    · rw [← List.append_assoc, List.splitOn_append_cons_self, List.splitOn_eq_singleton]
      · rfl
      · simp [h, hsegment]

/-- Between marks a text is taken piece by piece. The last piece, which no mark follows, stays. -/
def Segmentwise (mark : Char) (step : Text → Text → Prop) (text out : Text) : Prop :=
  ∃ segments segments' last, text.splitOn mark = segments ++ [last] ∧
    out.splitOn mark = segments' ++ [last] ∧ List.Forall₂ step segments segments'

namespace Segmentwise

variable {mark : Char} {step : Text → Text → Prop} {text out : Text}

theorem length_eq (h : Segmentwise mark step text out) :
    (out.splitOn mark).length = (text.splitOn mark).length := by
  obtain ⟨segments, segments', last, htext, hout, hstep⟩ := h
  rw [htext, hout, List.length_append, List.length_append, hstep.length_eq]

theorem last (h : mark ∉ text) : Segmentwise mark step text text :=
  ⟨[], [], text, List.splitOn_eq_singleton h, List.splitOn_eq_singleton h, .nil⟩

theorem cons {old new : Text} (h : Segmentwise mark step text out) (hold : mark ∉ old)
    (hnew : mark ∉ new) (hstep : step old new) :
    Segmentwise mark step (old ++ mark :: text) (new ++ mark :: out) := by
  obtain ⟨segments, segments', last, htext, hout, hall⟩ := h
  refine ⟨old :: segments, new :: segments', last, ?_, ?_, .cons hstep hall⟩
  · rw [List.splitOn_append_cons_self, List.splitOn_eq_singleton hold, htext]
    rfl
  · rw [List.splitOn_append_cons_self, List.splitOn_eq_singleton hnew, hout]
    rfl

theorem kept (h : ∀ front segment back, text = front ++ (segment ++ mark :: back) →
    mark ∉ segment → step segment segment) : Segmentwise mark step text text := by
  induction text using mark_induction mark with
  | last text hmark => exact last hmark
  | cons segment text hsegment ih =>
    refine (ih ?_).cons hsegment hsegment (h [] segment text rfl hsegment)
    rintro front piece back rfl hpiece
    exact h (segment ++ mark :: front) piece back (by simp) hpiece

theorem behind {before old new : Text} (h : Segmentwise mark step text out)
    (hkept : ∀ front segment back, before = front ++ (segment ++ mark :: back) →
      mark ∉ segment → step segment segment)
    (hold : mark ∉ old) (hnew : mark ∉ new) (hstep : ∀ lead, step (lead ++ old) (lead ++ new)) :
    Segmentwise mark step (before ++ (old ++ mark :: text)) (before ++ (new ++ mark :: out)) := by
  induction before using mark_induction mark with
  | last lead hlead =>
    rw [← List.append_assoc, ← List.append_assoc]
    exact h.cons (by simp [hlead, hold]) (by simp [hlead, hnew]) (hstep lead)
  | cons segment before hsegment ih =>
    rw [List.append_assoc, List.append_assoc, List.cons_append, List.cons_append]
    refine (ih ?_).cons hsegment hsegment (hkept [] segment before rfl hsegment)
    rintro front piece back rfl hpiece
    exact hkept (segment ++ mark :: front) piece back (by simp) hpiece

end Segmentwise

end Text

theorem Swept.segmentwise {pattern : Pattern} {allowed step : Text → Text → Prop} {mark : Char}
    {prev : Option Char} {text out : Text} (h : Swept pattern allowed prev text out)
    (hc : pattern.consumes = true)
    (hkept : ∀ {prev segment rest}, ¬ pattern.Within prev (segment ++ [mark]) rest →
      step segment segment)
    (hstep : ∀ {found fresh}, allowed found fresh → ∃ old new, found = old ++ [mark] ∧
      fresh = new ++ [mark] ∧ mark ∉ old ∧ mark ∉ new ∧ ∀ lead, step (lead ++ old) (lead ++ new)) :
    Text.Segmentwise mark step text out := by
  -- no match ends in front of a place before which there is none
  have hclear {prev : Option Char} {front segment back rest : Text}
      (hno : ¬ pattern.Within prev (front ++ (segment ++ mark :: back)) rest) :
      step segment segment := by
    have hcut : segment ++ mark :: back = (segment ++ [mark]) ++ back := by simp
    rw [hcut] at hno
    exact hkept fun hin => hno hin.append_left.append_right
  induction h with
  | rest hno =>
    refine .kept fun front segment back htext _ => ?_
    subst htext
    rw [Bool.eq_false_iff, ne_eq, Pattern.occurs_iff_within] at hno
    exact hclear hno
  | step hfirst fits _ ih =>
    obtain ⟨old, new, rfl, rfl, hold, hnew, hlead⟩ := hstep fits
    rw [hfirst.split, List.append_assoc, List.append_assoc]
    refine ih.behind ?_ hold hnew hlead
    rintro front segment back rfl _
    exact hclear (hfirst.not_within hc)

end Recast
