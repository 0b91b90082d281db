import Recast.Proofs.Items
import Recast.Proofs.Pattern.Walls
import Recast.Proofs.Replacement

/-! Rules that edit the signatures of items, which is what stands before the first brace that opens. A rule
that puts text in at one place of some items puts it in there and changes nothing else of the text. If it
keeps the front of a signature, on which it depends where headers are found, then the new text has the
same items up to these edits, so that a second round edits nothing that the first one has edited. -/

namespace Recast

def insertions (new : Text) (places : List Nat) : List (Span × Text) :=
  places.map fun place => (⟨place, place⟩, new)

structure PutsIn (Cut : Text → Text → Prop) (new : Text) (f : Text → Text) : Prop where
  put : ∀ {front back}, Cut front back → back ≠ [] ∧ f (front ++ back) = front ++ (new ++ back)
  kept : ∀ {covered}, (∀ front back, covered = front ++ back → ¬ Cut front back) →
    f covered = covered
  only : ∀ {front back front' back'}, Cut front back → Cut front' back' →
    front ++ back = front' ++ back' → front = front'

section

variable {Cut : Text → Text → Prop} {new : Text} {f : Text → Text}

def CutAt (Cut : Text → Text → Prop) (text : Text) (span : Span) (place : Nat) : Prop :=
  ∃ front back, span.slice text = front ++ back ∧ Cut front back ∧ place = span.start + front.length

theorem spliceFrom_insertions {kept rest : Text} {places : List Nat} {pos : Nat}
    (h : ∀ place ∈ places, pos + kept.length ≤ place) :
    spliceFrom pos (kept ++ rest) (insertions new places) =
      kept ++ spliceFrom (pos + kept.length) rest (insertions new places) := by
  refine spliceFrom_append fun edit hedit => ?_
  obtain ⟨place, hplace, rfl⟩ := List.mem_map.mp hedit
  exact ⟨h place hplace, Nat.le_refl place⟩

theorem spliceFrom_insertions_cons {front back rest : Text} {places : List Nat} {pos : Nat}
    (h : ∀ place ∈ places, pos + front.length + back.length ≤ place) :
    spliceFrom pos (front ++ (back ++ rest)) (insertions new ((pos + front.length) :: places)) =
      front ++ (new ++ (back ++
        spliceFrom (pos + front.length + back.length) rest (insertions new places))) := by
  have hcons : insertions new ((pos + front.length) :: places) =
      (⟨pos + front.length, pos + front.length⟩, new) :: insertions new places := rfl
  rw [hcons, spliceFrom, Nat.add_sub_cancel_left, List.take_left, List.drop_left,
    spliceFrom_insertions h, List.append_assoc]

/-- `out` is `rest` with text put in at these places, which are those of the cuts in the spans. What is
in hand stands behind `before`. -/
structure PutAt (Cut : Text → Text → Prop) (new before rest out : Text) (spans : List Span)
    (places : List Nat) : Prop where
  ascend : places.Pairwise (· < ·)
  later : ∀ place ∈ places, before.length ≤ place
  cuts : ∀ place, place ∈ places ↔ ∃ span ∈ spans, CutAt Cut (before ++ rest) span place
  spliced : out = spliceFrom before.length rest (insertions new places)

namespace PutAt

variable {before gap after out : Text} {spans : List Span} {places : List Nat}

theorem slice_between (before gap covered after : Text) :
    (Span.mk (before.length + gap.length) (before.length + gap.length + covered.length)).slice
      (before ++ (gap ++ (covered ++ after))) = covered := by
  have hfound := Span.slice_found (before ++ gap) covered after
  rwa [List.length_append, List.append_assoc] at hfound

theorem span_cut (h : PutsIn Cut new f) {front back : Text} (hcut : Cut front back)
    (more : PutAt Cut new (before ++ gap ++ (front ++ back)) after out spans places) :
    PutAt Cut new before (gap ++ (front ++ back ++ after)) (gap ++ (f (front ++ back) ++ out))
      (⟨before.length + gap.length, before.length + gap.length + (front ++ back).length⟩ :: spans)
      ((before.length + gap.length + front.length) :: places) := by
  obtain ⟨hback, hput⟩ := h.put hcut
  have hinside := List.length_pos_iff.mpr hback
  have hlater := more.later
  simp only [List.length_append] at hlater
  constructor
  · refine List.pairwise_cons.mpr ⟨fun place hplace => ?_, more.ascend⟩
    have := hlater place hplace
    omega
  · refine List.forall_mem_cons.mpr ⟨by omega, fun place hplace => ?_⟩
    have := hlater place hplace
    omega
  · intro place
    have hmore := more.cuts place
    simp only [List.append_assoc] at hmore
    simp only [List.mem_cons, exists_eq_or_imp, List.append_assoc, hmore]
    have hslice := slice_between before gap (front ++ back) after
    rw [List.append_assoc] at hslice
    refine or_congr_left ⟨?_, ?_⟩
    · rintro rfl
      exact ⟨front, back, hslice, hcut, rfl⟩
    · rintro ⟨front', back', heq, hcut', rfl⟩
      rw [hslice] at heq
      rw [h.only hcut hcut' heq]
  · have hbehind : ∀ place ∈ places, before.length + (gap ++ front).length + back.length ≤ place := by
      intro place hplace
      have := hlater place hplace
      rw [List.length_append]
      omega
    have hinserted := @spliceFrom_insertions_cons new (gap ++ front) back after places _ hbehind
    rw [hput, more.spliced]
    simpa only [List.append_assoc, List.length_append, ← Nat.add_assoc] using hinserted.symm

theorem span_kept (h : PutsIn Cut new f) {covered : Text}
    (hnone : ∀ front back, covered = front ++ back → ¬ Cut front back)
    (more : PutAt Cut new (before ++ gap ++ covered) after out spans places) :
    PutAt Cut new before (gap ++ (covered ++ after)) (gap ++ (f covered ++ out))
      (⟨before.length + gap.length, before.length + gap.length + covered.length⟩ :: spans)
      places := by
  have hlater := more.later
  simp only [List.length_append] at hlater
  constructor
  · exact more.ascend
  · intro place hplace
    have := hlater place hplace
    omega
  · intro place
    have hmore := more.cuts place
    simp only [List.append_assoc] at hmore
    simp only [List.mem_cons, exists_eq_or_imp, hmore]
    refine (or_iff_right ?_).symm
    rintro ⟨front, back, heq, hhere, -⟩
    rw [slice_between] at heq
    exact hnone front back heq hhere
  · have hbehind : ∀ place ∈ places, before.length + (gap ++ covered).length ≤ place := by
      intro place hplace
      have := hlater place hplace
      rw [List.length_append]
      omega
    have hwhole := @spliceFrom_insertions new (gap ++ covered) after places _ hbehind
    rw [h.kept hnone, more.spliced]
    simpa only [List.append_assoc, List.length_append, ← Nat.add_assoc] using hwhole.symm

end PutAt

theorem Replaced.exists_putAt (h : PutsIn Cut new f) {pos : Nat} {rest out : Text}
    {spans : List Span} (hreplaced : Replaced f pos rest spans out) :
    ∀ {before : Text}, before.length = pos →
      ∃ places, PutAt Cut new before rest out spans places := by
  induction hreplaced with
  | rest pos kept => exact fun _ => ⟨[], .nil, by simp, by simp, rfl⟩
  | @span pos start stop spans after out gap covered hstart hstop more ih =>
    rintro before rfl
    subst hstart hstop
    have hbehind : (before ++ gap ++ covered).length =
        before.length + gap.length + covered.length := by
      rw [List.length_append, List.length_append]
    obtain ⟨places, hplaces⟩ := ih hbehind
    by_cases hcut : ∃ front back, covered = front ++ back ∧ Cut front back
    · obtain ⟨front, back, rfl, hcut⟩ := hcut
      exact ⟨_, hplaces.span_cut h hcut⟩
    · exact ⟨places, hplaces.span_kept h fun front back heq hhere => hcut ⟨front, back, heq, hhere⟩⟩

/-- Replacing spans by their text with something put in puts that in at the places of the cuts. -/
theorem PutsIn.exists_places (h : PutsIn Cut new f) {text : Text} {spans : List Span}
    (hordered : Span.Ordered 0 text.length spans) :
    ∃ places : List Nat, places.Pairwise (· < ·) ∧
      (∀ place, place ∈ places ↔ ∃ span ∈ spans, CutAt Cut text span place) ∧
      splice text (spans.map fun span => (span, f (span.slice text))) =
        splice text (insertions new places) := by
  have hreplaced := Replaced.of_spliceFrom f (List.nil_append text).symm hordered
  obtain ⟨places, hplaces⟩ := hreplaced.exists_putAt h List.length_nil
  exact ⟨places, hplaces.ascend, hplaces.cuts, hplaces.spliced⟩

end

namespace Pattern

/-- Whether the pattern matches at a place can be told from so many characters there. -/
def Sees (pattern : Pattern) (count : Nat) : Prop :=
  ∀ {prev prev' : Option Char} {text text' : Text}, text.take count = text'.take count →
    (pattern.width? prev text).isSome = (pattern.width? prev' text').isSome

/-- `new` edits the signatures of items, but not their first characters, which decide whether there is a
header, and edits none a second time. -/
structure EditsSignatures (header : Pattern) (count : Nat) (new : Text → Text) : Prop where
  sees : header.Sees count
  reads : ∀ {prev found rest}, header.Reads prev found rest →
    count ≤ found.length ∧ '\x7b' ∉ found
  signature : ∀ {lead body}, '\x7b' ∉ lead → body.head? = some '\x7b' →
    ∃ edited, new (lead ++ body) = edited ++ body ∧ '\x7b' ∉ edited ∧
      edited.take count = lead.take count
  again : ∀ item, new (new item) = new item

theorem take_append_of_take_eq {α : Type} {count : Nat} {first second : List α} (front : List α)
    (h : first.take count = second.take count) :
    (front ++ first).take count = (front ++ second).take count := by
  have shorter (list : List α) : list.take (count - front.length) =
      (list.take count).take (count - front.length) := by
    rw [List.take_take, Nat.min_eq_left (Nat.sub_le _ _)]
  rw [List.take_append, List.take_append, shorter first, h, ← shorter]

namespace EditsSignatures

variable {header : Pattern} {count : Nat} {new : Text → Text} {prev : Option Char}
  {text before found after lead edited body tail : Text}

theorem width?_signature (h : header.EditsSignatures count new) (hbody : body.Enclosed)
    (hseen : (header.width? prev (lead ++ (body ++ tail))).isSome = true) :
    count ≤ lead.length ∧
      ∃ n, header.width? prev (lead ++ (body ++ tail)) = some n ∧ n ≤ (lead ++ body).length := by
  obtain ⟨n, hn⟩ := Option.isSome_iff_exists.mp hseen
  obtain ⟨hcount, hbraceless⟩ := h.reads (reads_of_width? hn)
  obtain ⟨more, rfl⟩ := List.head?_eq_some_iff.mp hbody.opens
  have hprefix : (lead ++ ('\x7b' :: more ++ tail)).take n <+: lead :=
    Text.prefix_of_notin hbraceless (List.take_append_drop n _)
  have hlength := hprefix.length_le
  refine ⟨Nat.le_trans hcount hlength, n, hn, ?_⟩
  rw [List.length_take, Nat.min_eq_left (width?_le hn)] at hlength
  rw [List.length_append]
  exact Nat.le_add_right_of_le hlength

theorem rewriteItems_first (h : header.EditsSignatures count new)
    (hfirst : header.First prev text before found after)
    (hsplit : found ++ after = lead ++ (body ++ tail)) (hlead : '\x7b' ∉ lead)
    (hbody : body.Enclosed) :
    header.rewriteItems new 0 prev text =
      before ++ (new (lead ++ body) ++ header.rewriteItems new 0 (some '\x7d') tail) := by
  have hseen : (header.width? (Text.lastFrom prev before) (lead ++ (body ++ tail))).isSome = true := by
    rw [← hsplit, hfirst.width]
    rfl
  have hclose : Matcher.closing? 0 0 (lead ++ body) = some (lead ++ body).length :=
    Matcher.closing?_eq_some_iff_closes.mpr
      ⟨lead, body, [], by simp, hlead, hbody, by rw [List.length_append, Nat.zero_add]⟩
  have hpasses : header.PassesItems new (Text.lastFrom prev before) (lead ++ body)
      (new (lead ++ body)) := by
    refine .of_closing hclose fun other => ?_
    obtain ⟨hcount, -⟩ := h.width?_signature hbody hseen
    rw [List.append_assoc]
    refine (h.width?_signature hbody ?_).2
    rw [← hseen]
    refine h.sees ?_
    rw [List.take_append_of_le_length hcount, List.take_append_of_le_length hcount]
  have hne : body ≠ [] := by
    rintro rfl
    cases hbody.opens
  rw [hfirst.rewriteItems_skip, hsplit, ← List.append_assoc lead, hpasses, Text.lastFrom_append,
    Text.lastFrom_eq_getLast? hne, hbody.closes]

theorem first_edited (h : header.EditsSignatures count new)
    (hfirst : header.First prev text before found after)
    (hsplit : found ++ after = lead ++ (body ++ tail)) (hbody : body.Enclosed)
    (hkept : edited.take count = lead.take count) (other : Text) :
    ∃ found' after', found' ++ after' = edited ++ (body ++ other) ∧
      header.First prev (before ++ (edited ++ (body ++ other))) before found' after' := by
  have hseen : (header.width? (Text.lastFrom prev before) (lead ++ (body ++ tail))).isSome = true := by
    rw [← hsplit, hfirst.width]
    rfl
  obtain ⟨hcount, -⟩ := h.width?_signature hbody hseen
  have hcount' : count ≤ edited.length := by
    have hlength := congrArg List.length hkept
    rw [List.length_take, List.length_take, Nat.min_eq_left hcount] at hlength
    omega
  have hahead : (edited ++ (body ++ other)).take count = (found ++ after).take count := by
    rw [hsplit, List.take_append_of_le_length hcount, List.take_append_of_le_length hcount', hkept]
  obtain ⟨n, hn⟩ := Option.isSome_iff_exists.mp
    ((h.sees hahead).trans (hsplit ▸ hseen) :
      (header.width? (Text.lastFrom prev before) (edited ++ (body ++ other))).isSome = true)
  refine ⟨_, _, List.take_append_drop n _, by rw [List.take_append_drop], ?_, ?_⟩
  · rw [List.take_append_drop, List.length_take, Nat.min_eq_left (width?_le hn), hn]
  · intro left right heq hne
    rw [List.take_append_drop, ← Option.not_isSome_iff_eq_none]
    have hsame := take_append_of_take_eq right hahead
    rw [h.sees hsame, hfirst.earlier left right heq hne]
    simp

/-- A second round over the items comes to the same items and edits none of them. -/
theorem rewriteItems_again (h : header.EditsSignatures count new) (text : Text) :
    ∀ prev : Option Char,
      header.rewriteItems new 0 prev (header.rewriteItems new 0 prev text) =
        header.rewriteItems new 0 prev text := by
  induction hlength : text.length using Nat.strongRecOn generalizing text with
  | ind length ih =>
    intro prev
    by_cases hoccurs : header.occurs prev text = true
    · obtain ⟨before, found, after, hfirst⟩ := exists_first text hoccurs
      cases hclose : Matcher.closing? 0 0 (found ++ after) with
      | none => rw [hfirst.rewriteItems_of_unclosed hclose, hfirst.rewriteItems_of_unclosed hclose]
      | some stop =>
        obtain ⟨lead, body, tail, hsplit, hlead, hbody, -⟩ :=
          Matcher.closing?_eq_some_iff_closes.mp hclose
        rw [List.drop_zero] at hsplit
        obtain ⟨edited, hedited, hunbraced, hkept⟩ := h.signature hlead hbody.opens
        have hshorter : tail.length < length := by
          have hopens := hbody.opens
          have hbodyLength : 0 < body.length := by
            cases body with
            | nil => cases hopens
            | cons c body => exact Nat.succ_pos _
          rw [← hlength, hfirst.split, hsplit]
          simp only [List.length_append]
          omega
        obtain ⟨found', after', hsplit', hfirst'⟩ := h.first_edited hfirst hsplit hbody hkept
          (header.rewriteItems new 0 (some '\x7d') tail)
        have hround := h.rewriteItems_first hfirst hsplit hlead hbody
        have hagain := h.again (lead ++ body)
        rw [hedited] at hround hagain
        rw [List.append_assoc] at hround
        rw [hround, h.rewriteItems_first hfirst' hsplit' hunbraced hbody, hagain,
          ih tail.length hshorter tail rfl, List.append_assoc]
    · rw [Bool.not_eq_true] at hoccurs
      rw [rewriteItems_of_not_occurs hoccurs, rewriteItems_of_not_occurs hoccurs]

end EditsSignatures

end Pattern

end Recast
