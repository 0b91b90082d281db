import Recast.Proofs.Pattern.Walls
import Recast.Proofs.Text

/-! A fixed text that is looked for beside pieces of the text it is looked for in. A needle that does not
reach into a piece stands before it or behind it, so pieces of this kind may be replaced by one another:
no needle is lost where one goes, and none is made where one comes in. Where a text is cut at a character
that the needle lacks, the occurrences on both sides are all there are. -/

namespace Recast

namespace Text

variable {c : Char} {needle first second text : Text}

theorem clears_of_front {front : Text} (h : front.clears text = true) (more : Text) :
    (front ++ more).clears text = true := by
  induction text with
  | nil => rfl
  | cons c text ih =>
    rw [clears, Bool.and_eq_true, Bool.not_eq_true'] at h
    rw [clears, ih h.2, Bool.and_true, Bool.not_eq_true', Bool.eq_false_iff, agree_comm]
    intro hagree
    rw [agree_comm, agree_of_agree_append hagree] at h
    cases h.1

theorem within_cut_eq (hc : c ∉ needle) :
    needle.within (first ++ c :: second) = (needle.within first || needle.within second) := by
  rw [Bool.eq_iff_iff, Bool.or_eq_true]
  refine ⟨within_cut hc, ?_⟩
  rintro (hfirst | hsecond)
  · exact within_append_left hfirst _
  · exact within_append_right (within_append_right hsecond [c]) _

theorem within_behind (h : needle.clears first = true) :
    needle.within (first ++ second) = needle.within second := by
  have hbegins : (Pattern.exactly needle).Begins needle := Pattern.begins_lit
  have hquiet : (Pattern.exactly needle).Quiet none first := hbegins.quiet h none
  rw [← Pattern.occurs_exactly needle _ none, ← Pattern.occurs_exactly needle _ (lastFrom none first)]
  exact hquiet.occurs_append second

def occurrences (needle : Text) : Text → Nat
  | [] => if needle.isEmpty then 1 else 0
  | c :: rest => (if needle.isPrefixOf (c :: rest) then 1 else 0) + needle.occurrences rest

theorem occurrences_eq_zero_iff : needle.occurrences text = 0 ↔ needle.within text = false := by
  induction text with
  | nil => simp [occurrences, within]
  | cons c rest ih =>
    rw [occurrences, within, Nat.add_eq_zero_iff, ih, Bool.or_eq_false_iff]
    by_cases hbegins : needle.isPrefixOf (c :: rest) = true
    · simp [hbegins]
    · simp only [hbegins, if_false, Bool.false_eq_true]

theorem occurrences_of_notin (hc : c ∈ needle) (htext : c ∉ text) : needle.occurrences text = 0 := by
  rw [occurrences_eq_zero_iff, Bool.eq_false_iff]
  intro hin
  exact htext (((within_iff_isInfix _ _).mp hin).subset hc)

theorem occurrences_cut (hne : needle ≠ []) (hc : c ∉ needle) :
    needle.occurrences (first ++ c :: second) =
      needle.occurrences first + needle.occurrences second := by
  induction first with
  | nil =>
    have hhead : needle.isPrefixOf (c :: second) = false := by
      rw [Bool.eq_false_iff]
      intro hbegins
      obtain ⟨more, hmore⟩ := List.isPrefixOf_iff_prefix.mp hbegins
      exact hne (List.prefix_nil.mp (prefix_of_notin hc (hmore.trans (List.nil_append _).symm)))
    simp [occurrences, hhead, hne]
  | cons d first ih =>
    have hhead : needle.isPrefixOf (d :: (first ++ c :: second)) =
        needle.isPrefixOf (d :: first) := by
      rw [Bool.eq_iff_iff, List.isPrefixOf_iff_prefix, List.isPrefixOf_iff_prefix]
      constructor
      · rintro ⟨more, hmore⟩
        exact prefix_of_notin hc (hmore.trans (List.cons_append ..).symm)
      · intro hbegins
        exact hbegins.trans (List.prefix_append (d :: first) (c :: second))
    rw [List.cons_append, occurrences, occurrences, ih, hhead, Nat.add_assoc]

/-- No occurrence reaches into a trail without the last character of the needle. -/
theorem occurrences_trail {trail : Text} (hlast : needle.getLast? = some c) (hc : c ∉ trail) :
    needle.occurrences (first ++ trail) = needle.occurrences first := by
  have hmem : c ∈ needle := List.mem_of_getLast? hlast
  induction first with
  | nil =>
    rw [List.nil_append, occurrences_of_notin hmem hc, occurrences_of_notin hmem List.not_mem_nil]
  | cons d first ih =>
    have hhead : needle.isPrefixOf (d :: (first ++ trail)) = needle.isPrefixOf (d :: first) := by
      rw [Bool.eq_iff_iff, List.isPrefixOf_iff_prefix, List.isPrefixOf_iff_prefix]
      constructor
      · intro hbegins
        rcases List.prefix_or_prefix_of_prefix hbegins (List.prefix_append (d :: first) trail) with
          hfirst | ⟨gap, rfl⟩
        · exact hfirst
        · -- the last character would stand in the trail
          by_cases hne : gap = []
          · simp [hne]
          · obtain ⟨init, hinit⟩ := List.getLast?_eq_some_iff.mp hlast
            obtain ⟨more, rfl, -⟩ := concat_of_append hne hinit
            have hgap := (List.prefix_append_right_inj (d :: first)).mp hbegins
            exact absurd (hgap.subset (by simp)) hc
      · intro hbegins
        exact hbegins.trans (List.prefix_append (d :: first) trail)
    rw [List.cons_append, occurrences, occurrences, ih, hhead]

end Text

namespace Pattern

variable {c d : Char} {needle piece first second : Text}

theorem shut_exactly (hne : piece ≠ []) (hend : piece.clears needle.tail = true)
    (hbegin : needle.clears piece = true) : (exactly needle).Shut piece := by
  refine ⟨hne, stops_of_clears fun hreads => ?_, begins_lit.quiet hbegin⟩
  rw [reads_exactly.mp hreads]
  exact hend

def apart (needle piece : Text) : Bool :=
  !piece.isEmpty && piece.clears needle.tail && needle.clears piece

theorem shut_of_apart {needle piece : Text} (h : apart needle piece = true) :
    (exactly needle).Shut piece := by
  simp only [apart, Bool.and_eq_true, Bool.not_eq_true', List.isEmpty_eq_false_iff] at h
  exact shut_exactly h.1.1 h.1.2 h.2

/-- A needle does not reach into a piece that lacks its first character and begins with one that the
needle lacks. -/
theorem shut_of_head (hneedle : needle.head? = some c) (hpiece : piece.head? = some d)
    (hc : c ∉ piece) (hd : d ∉ needle) : (exactly needle).Shut piece := by
  obtain ⟨needle, rfl⟩ := List.head?_eq_some_iff.mp hneedle
  obtain ⟨piece, rfl⟩ := List.head?_eq_some_iff.mp hpiece
  refine shut_exactly (List.cons_ne_nil _ _) (Text.clears_of_head_notin fun hmem => hd ?_)
    (Text.clears_of_head_notin hc)
  exact List.mem_cons_of_mem _ hmem

/-- A needle does not reach into a piece that lacks its last character and ends with one that the needle
lacks. -/
theorem shut_of_last (hneedle : needle.getLast? = some c) (hpiece : piece.getLast? = some d)
    (hc : c ∉ piece) (hd : d ∉ needle) : (exactly needle).Shut piece := by
  refine shut_exactly ?_ (Text.clears_of_notin (List.mem_of_getLast? hpiece) ?_ ?_)
    (Text.clears_of_notin (List.mem_of_getLast? hneedle) hc ?_)
  · rintro rfl
    cases hpiece
  · exact fun hmem => hd (List.mem_of_mem_tail hmem)
  · intro e he
    have hlast : needle.getLast? = some e := by
      cases needle with
      | nil => cases he
      | cons f needle =>
        rw [List.tail_cons] at he
        rw [List.getLast?_cons, Option.mem_def.mp he]
        rfl
    obtain rfl := Option.some.inj (hneedle.symm.trans hlast)
    exact fun hmem => hc (List.dropLast_subset _ hmem)
  · intro e he
    obtain rfl := Option.some.inj (hpiece.symm.trans he)
    exact fun hmem => hd (List.dropLast_subset _ hmem)

theorem Shut.within_beside (h : (exactly needle).Shut piece) :
    needle.within (first ++ (piece ++ second)) = (needle.within first || needle.within second) := by
  have hside {prev : Option Char} {text rest : Text} (hw : (exactly needle).Within prev text rest) :
      needle.within text = true := by
    obtain ⟨before, found, after, rfl, hreads⟩ := hw
    rw [reads_exactly.mp hreads, Text.within_iff_isInfix]
    exact ⟨before, after, List.append_assoc _ _ _⟩
  rw [Bool.eq_iff_iff, Bool.or_eq_true]
  constructor
  · intro hin
    rw [← occurs_exactly needle _ none, occurs_iff_within] at hin
    exact (h.within hin).imp hside hside
  · rintro (hfirst | hsecond)
    · exact Text.within_append_left hfirst _
    · exact Text.within_append_right (Text.within_append_right hsecond piece) _

section

variable {prev : Option Char} {text before found after : Text}

theorem First.not_prefix (h : (exactly needle).First prev text before found after)
    {left right : Text} (hcut : before = left ++ right) (hne : right ≠ []) :
    ¬ needle <+: right ++ (found ++ after) := by
  intro hbegins
  have hnone := h.earlier left right hcut hne
  rw [width?_exactly, if_pos (List.isPrefixOf_iff_prefix.mpr hbegins)] at hnone
  cases hnone

theorem First.not_within_before (h : (exactly needle).First prev text before found after)
    (hne : needle ≠ []) : needle.within before = false := by
  rw [Bool.eq_false_iff]
  intro hin
  obtain ⟨left, right, hcut⟩ := (Text.within_iff_isInfix _ _).mp hin
  rw [List.append_assoc] at hcut
  refine h.not_prefix hcut.symm (List.append_ne_nil_of_left_ne_nil hne right) ?_
  rw [List.append_assoc]
  exact List.prefix_append _ _

theorem First.within_eq (h : (exactly needle).First prev text before found after) {longer : Text}
    (hbegins : needle <+: longer) : longer.within text = longer.within (found ++ after) := by
  rw [h.split, Bool.eq_iff_iff]
  constructor
  · intro hin
    obtain ⟨left, right, hcut⟩ := (Text.within_iff_isInfix _ _).mp hin
    rw [List.append_assoc] at hcut
    rcases List.append_eq_append_iff.mp hcut with ⟨gap, hbefore, hgap⟩ | ⟨gap, -, hgap⟩
    · by_cases hne : gap = []
      · rw [hne, List.nil_append] at hgap
        rw [← hgap]
        exact Text.within_append_left ((Text.within_iff_isInfix _ _).mpr List.infix_rfl) right
      · refine absurd ?_ (h.not_prefix hbefore hne)
        rw [← hgap]
        exact hbegins.trans (List.prefix_append longer right)
    · rw [hgap, Text.within_iff_isInfix]
      exact ⟨gap, right, List.append_assoc _ _ _⟩
  · intro hin
    exact Text.within_append_right hin before

end

end Pattern

namespace Patched

open Pattern

variable {allowed : Text → Text → Prop} {needle text out : Text}

theorem within_kept (h : Patched allowed text out)
    (hold : ∀ {old new}, allowed old new → (exactly needle).Shut old)
    (hin : needle.within text = true) : needle.within out = true := by
  refine h.keeps (fun out => needle.within out = true) (fun hallowed hin => ?_) hin
  rw [(hold hallowed).within_beside, Bool.or_eq_true] at hin
  rcases hin with hfirst | hsecond
  · exact Text.within_append_left hfirst _
  · exact Text.within_append_right (Text.within_append_right hsecond _) _

theorem not_within (h : Patched allowed text out)
    (hnew : ∀ {old new}, allowed old new → (exactly needle).Shut new)
    (hno : needle.within text = false) : needle.within out = false := by
  refine h.keeps (fun out => needle.within out = false) (fun hallowed hno => ?_) hno
  rw [(hnew hallowed).within_beside, Bool.or_eq_false_iff]
  constructor
  · exact Bool.eq_false_iff.mpr fun hfirst =>
      Bool.eq_false_iff.mp hno (Text.within_append_left hfirst _)
  · exact Bool.eq_false_iff.mpr fun hsecond =>
      Bool.eq_false_iff.mp hno (Text.within_append_right (Text.within_append_right hsecond _) _)

theorem within_eq (h : Patched allowed text out)
    (hpatch : ∀ {old new}, allowed old new → (exactly needle).Shut old ∧ (exactly needle).Shut new) :
    needle.within out = needle.within text := by
  cases hin : needle.within text with
  | true => exact h.within_kept (fun hallowed => (hpatch hallowed).1) hin
  | false => exact h.not_within (fun hallowed => (hpatch hallowed).2) hin

theorem within_eq_of_apart {old new : Text}
    (h : Patched (fun old' new' => old' = old ∧ new' = new) text out)
    (hold : apart needle old = true) (hnew : apart needle new = true) :
    needle.within out = needle.within text := by
  refine h.within_eq fun hpatch => ?_
  obtain ⟨rfl, rfl⟩ := hpatch
  exact ⟨shut_of_apart hold, shut_of_apart hnew⟩

end Patched

end Recast
