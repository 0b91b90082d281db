import Recast.Proofs.ByteSearch

/-! Which occurrences of a fixed text a sweep selects. It takes the first occurrence that is accepted, goes
on behind it and takes the next. An occurrence that is refused is left by one character only, so one
that overlaps it is still seen, and an occurrence that is passed over overlaps one that was taken. -/

namespace Recast

/-- The selection from left to right among the spans of a class: what is not selected begins inside of a
selected one that begins before it. -/
structure Greedy (candidate : Span → Prop) (low high : Nat) (spans : List Span) : Prop where
  ordered : Span.Ordered low high spans
  sound : ∀ span ∈ spans, candidate span
  complete : ∀ span, candidate span → low ≤ span.start →
    span ∈ spans ∨ ∃ taken ∈ spans, taken.start < span.start ∧ span.start < taken.stop

namespace Greedy

variable {candidate : Span → Prop} {low high : Nat} {span : Span} {spans : List Span}

theorem nil (hle : low ≤ high) (h : ∀ span, candidate span → span.start < low) :
    Greedy candidate low high [] where
  ordered := hle
  sound := nofun
  complete span hspan hlow := absurd (h span hspan) (Nat.not_lt.mpr hlow)

theorem skip (h : Greedy candidate (low + 1) high spans)
    (hnone : ∀ span, candidate span → span.start ≠ low) : Greedy candidate low high spans where
  ordered := h.ordered.from_le (Nat.le_succ low)
  sound := h.sound
  complete span hspan hlow :=
    h.complete span hspan (Nat.lt_of_le_of_ne hlow (hnone span hspan).symm)

theorem cons (h : Greedy candidate span.stop high spans) (hspan : candidate span)
    (hlt : span.start < span.stop)
    (honly : ∀ other, candidate other → other.start = span.start → other = span) :
    Greedy candidate span.start high (span :: spans) where
  ordered := ⟨Nat.le_refl _, Nat.le_of_lt hlt, h.ordered⟩
  sound := List.forall_mem_cons.mpr ⟨hspan, h.sound⟩
  complete other hother hlow := by
    rcases Nat.eq_or_lt_of_le hlow with heq | hbehind
    · exact .inl (honly other hother heq.symm ▸ List.mem_cons_self)
    · by_cases hinside : other.start < span.stop
      · exact .inr ⟨span, List.mem_cons_self, hbehind, hinside⟩
      · rcases h.complete other hother (Nat.not_lt.mp hinside) with hmem | ⟨taken, ht, hover⟩
        · exact .inl (List.mem_cons_of_mem _ hmem)
        · exact .inr ⟨taken, List.mem_cons_of_mem _ ht, hover⟩

theorem eq_nil_iff (h : Greedy candidate 0 high spans) : spans = [] ↔ ∀ span, ¬ candidate span := by
  constructor
  · rintro rfl span hspan
    rcases h.complete span hspan (Nat.zero_le _) with hmem | ⟨taken, htaken, -⟩
    · cases hmem
    · cases htaken
  · exact fun hnone => List.eq_nil_iff_forall_not_mem.mpr fun span hspan => hnone span (h.sound span hspan)

section

variable (hlt : ∀ span, candidate span → span.start < span.stop)
  (honly : ∀ first second, candidate first → candidate second → first.start = second.start →
    first = second)

include hlt

theorem tail (h : Greedy candidate low high (span :: spans)) :
    Greedy candidate span.stop high spans where
  ordered := h.ordered.2.2
  sound := (List.forall_mem_cons.mp h.sound).2
  complete other hother hbehind := by
    obtain ⟨hstart, -⟩ := h.ordered
    have hspan := hlt span (h.sound span List.mem_cons_self)
    rcases h.complete other hother (by omega) with hmem | ⟨taken, htaken, hover⟩
    · rcases List.mem_cons.mp hmem with rfl | hmem
      · omega
      · exact .inl hmem
    · rcases List.mem_cons.mp htaken with rfl | htaken
      · omega
      · exact .inr ⟨taken, htaken, hover⟩

theorem first_le (h : Greedy candidate low high (span :: spans)) {other : Span}
    (hother : candidate other) (hlow : low ≤ other.start) : span.start ≤ other.start := by
  have hspan := hlt span (h.sound span List.mem_cons_self)
  have hfirst : ∀ taken ∈ span :: spans, span.start ≤ taken.start := by
    intro taken htaken
    rcases List.mem_cons.mp htaken with rfl | htaken
    · exact Nat.le_refl _
    · have := (h.ordered.2.2.bounds htaken).1
      omega
  rcases h.complete other hother hlow with hmem | ⟨taken, htaken, hover⟩
  · exact hfirst other hmem
  · have := hfirst taken htaken
    omega

include honly

/-- There is one such selection. -/
theorem unique {first second : List Span} (h₁ : Greedy candidate low high first)
    (h₂ : Greedy candidate low high second) : first = second := by
  induction first generalizing low second with
  | nil =>
    cases second with
    | nil => rfl
    | cons span more =>
      have hspan := h₂.sound span List.mem_cons_self
      rcases h₁.complete span hspan h₂.ordered.1 with hmem | ⟨taken, htaken, -⟩
      · cases hmem
      · cases htaken
  | cons span more ih =>
    have hspan := h₁.sound span List.mem_cons_self
    cases second with
    | nil =>
      rcases h₂.complete span hspan h₁.ordered.1 with hmem | ⟨taken, htaken, -⟩
      · cases hmem
      · cases htaken
    | cons other rest =>
      have hother := h₂.sound other List.mem_cons_self
      have hle := h₁.first_le hlt hother h₂.ordered.1
      have hge := h₂.first_le hlt hspan h₁.ordered.1
      obtain rfl := honly span other hspan hother (by omega)
      rw [ih (h₁.tail hlt) (h₂.tail hlt)]

end

end Greedy

namespace Matcher

/-- The span of a needle that stands in a text where `accepts` holds of the place and of what follows. -/
def Occurrence (needle : Text) (accepts : Cursor → Text → Bool) (text : Text) (span : Span) : Prop :=
  ∃ front after, text = front ++ (needle ++ after) ∧
    span = ⟨front.length, front.length + needle.length⟩ ∧
    accepts ⟨front.length, Text.lastFrom none front, needle ++ after⟩ after = true

variable {needle text : Text} {accepts : Cursor → Text → Bool} {span : Span}

theorem Occurrence.lt (h : Occurrence needle accepts text span) (hne : needle ≠ []) :
    span.start < span.stop := by
  obtain ⟨front, after, -, rfl, -⟩ := h
  exact Nat.lt_add_of_pos_right (List.length_pos_iff.mpr hne)

theorem Occurrence.stop_le (h : Occurrence needle accepts text span) : span.stop ≤ text.length := by
  obtain ⟨front, after, rfl, rfl, -⟩ := h
  simp only [List.length_append]
  omega

theorem Occurrence.unique {other : Span} (h₁ : Occurrence needle accepts text span)
    (h₂ : Occurrence needle accepts text other) (heq : span.start = other.start) : span = other := by
  obtain ⟨front, after, -, rfl, -⟩ := h₁
  obtain ⟨front', after', -, rfl, -⟩ := h₂
  obtain heq : front.length = front'.length := heq
  rw [heq]

theorem textProbe_hit (h : Occurrence needle accepts text span) (hne : needle ≠ [])
    (behind : Bool) :
    textProbe needle accepts behind (Cursor.ofPlace text span.start) = .hit span span.stop := by
  obtain ⟨front, after, rfl, rfl, haccepts⟩ := h
  have hempty : needle.isEmpty = false := by simpa using hne
  simp [textProbe, Cursor.ofPlace, hempty, haccepts]

theorem textProbe_miss {place : Nat} (hplace : place ≤ text.length)
    (h : ∀ span, Occurrence needle accepts text span → span.start ≠ place) (behind : Bool) :
    textProbe needle accepts behind (Cursor.ofPlace text place) = .miss := by
  rw [textProbe]
  split
  next hfound =>
    simp only [Cursor.ofPlace, Bool.and_eq_true, List.isPrefixOf_iff_prefix] at hfound
    obtain ⟨⟨-, after, hafter⟩, haccepts⟩ := hfound
    rw [← hafter, List.drop_left] at haccepts
    have hlength : (text.take place).length = place := List.length_take_of_le hplace
    refine absurd hlength (h ⟨_, _⟩ ⟨text.take place, after, ?_, rfl, ?_⟩)
    · rw [hafter, List.take_append_drop]
    · rwa [hlength]
  next => rfl

theorem sweepAt_text_greedy (hne : needle ≠ []) (text : Text) (gap : Nat) :
    ∀ (place : Nat) (behind : Bool), place + gap = text.length →
      Greedy (Occurrence needle accepts text) place text.length
        (sweepAt (textProbe needle accepts) behind text place) := by
  induction gap using Nat.strongRecOn with
  | ind gap ih =>
    intro place behind hgap
    have hplace : place ≤ text.length := by omega
    by_cases hhere : ∃ span, Occurrence needle accepts text span ∧ span.start = place
    · obtain ⟨span, hspan, rfl⟩ := hhere
      have hlt := hspan.lt hne
      have hend := hspan.stop_le
      rw [sweepAt_hit hlt hend (textProbe_hit hspan hne behind)]
      refine (ih (text.length - span.stop) (by omega) span.stop true (by omega)).cons hspan hlt ?_
      exact fun other hother heq => hother.unique hspan heq
    · have hnone : ∀ span, Occurrence needle accepts text span → span.start ≠ place :=
        fun span hspan heq => hhere ⟨span, hspan, heq⟩
      have hmiss := textProbe_miss hplace hnone behind
      rcases Nat.eq_or_lt_of_le hplace with rfl | hlt
      · rw [sweepAt_end (Nat.le_refl _) hmiss]
        refine .nil (Nat.le_refl _) fun span hspan => ?_
        exact Nat.lt_of_lt_of_le (hspan.lt hne) hspan.stop_le
      · rw [sweepAt_miss hlt hmiss]
        exact (ih (gap - 1) (by omega) (place + 1) false (by omega)).skip hnone

/-- The spans collected by a sweep for a fixed text are the selection among its occurrences. -/
theorem greedy_text_iff (hne : needle ≠ []) (text : Text) (spans : List Span) :
    Greedy (Occurrence needle accepts text) 0 text.length spans ↔
      spans = sweep (textProbe needle accepts) text := by
  have hgreedy : Greedy (Occurrence needle accepts text) 0 text.length
      (sweep (textProbe needle accepts) text) :=
    sweepAt_text_greedy hne text text.length 0 false (Nat.zero_add _)
  constructor
  · exact fun h => h.unique (fun _ hspan => hspan.lt hne)
      (fun _ _ hfirst hsecond => hfirst.unique hsecond) hgreedy
  · rintro rfl
    exact hgreedy

end Matcher

end Recast
