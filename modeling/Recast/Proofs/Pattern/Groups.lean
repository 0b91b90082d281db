import Recast.Proofs.Pattern.Literal

/-! What the groups of a match hold. A pattern is taken apart from its start; each part leaves the
slots as they were, or stores the ends of one group. -/

namespace Recast.Pattern

def groupless : Pattern → Bool
  | empty => true
  | char _ => true
  | look _ => true
  | group _ _ => false
  | seq first second => first.groupless && second.groupless
  | alt first second => first.groupless && second.groupless
  | repeated body _ => body.groupless

theorem mustEnds_slots {step : Spot → List Spot}
    (h : ∀ spot, ∀ found ∈ step spot, found.2 = spot.2) (n : Nat) :
    ∀ spot, ∀ found ∈ mustEnds step n spot, found.2 = spot.2 := by
  induction n with
  | zero =>
    intro spot found hf
    rw [List.mem_singleton.mp hf]
  | succ n ih =>
    intro spot found hf
    obtain ⟨middle, hm, hf⟩ := List.mem_flatMap.mp hf
    exact (ih middle found hf).trans (h spot middle hm)

theorem ends_slots {pattern : Pattern} (hg : pattern.groupless = true) :
    ∀ spot, ∀ found ∈ pattern.ends spot, found.2 = spot.2 := by
  induction pattern with
  | empty =>
    intro spot found hf
    rw [List.mem_singleton.mp hf]
  | char members =>
    rintro ⟨⟨pos, prev, rest⟩, slots⟩ found hf
    cases rest with
    | nil => cases hf
    | cons c rest =>
      simp only [ends] at hf
      split at hf
      · rw [List.mem_singleton.mp hf]
      · cases hf
  | look condition =>
    rintro ⟨here, slots⟩ found hf
    simp only [ends] at hf
    split at hf
    · rw [List.mem_singleton.mp hf]
    · cases hf
  | group index body => cases hg
  | seq first second ih₁ ih₂ =>
    obtain ⟨hg₁, hg₂⟩ := Bool.and_eq_true_iff.mp hg
    intro spot found hf
    obtain ⟨middle, hm, hf⟩ := List.mem_flatMap.mp hf
    exact (ih₂ hg₂ middle found hf).trans (ih₁ hg₁ spot middle hm)
  | alt first second ih₁ ih₂ =>
    obtain ⟨hg₁, hg₂⟩ := Bool.and_eq_true_iff.mp hg
    intro spot found hf
    rcases List.mem_append.mp hf with hf | hf
    · exact ih₁ hg₁ spot found hf
    · exact ih₂ hg₂ spot found hf
  | repeated body bounds ih =>
    intro spot found hf
    obtain ⟨middle, hm, hf⟩ := List.mem_flatMap.mp hf
    obtain ⟨m, _, hf⟩ := (mem_mayEnds_iff _ middle).mp hf
    exact (mustEnds_slots (ih hg) m middle found hf).trans (mustEnds_slots (ih hg) _ spot middle hm)

theorem mem_ends_lit {fixed : Text} {onward : Pattern} {spot found : Spot}
    (h : found ∈ (lit fixed onward).ends spot) :
    fixed <+: spot.1.rest ∧ found ∈ onward.ends (spot.1.past fixed, spot.2) := by
  induction fixed generalizing spot with
  | nil => exact ⟨List.nil_prefix, h⟩
  | cons c fixed ih =>
    obtain ⟨⟨pos, prev, rest⟩, slots⟩ := spot
    obtain ⟨middle, hm, hf⟩ := List.mem_flatMap.mp h
    cases rest with
    | nil => cases hm
    | cons d rest =>
      simp only [ends] at hm
      split at hm
      · next hd =>
        rw [List.mem_singleton.mp hm] at hf
        obtain ⟨hstart, honward⟩ := ih hf
        refine ⟨?_, ?_⟩
        · rw [CharClass.has_single.mp hd]
          exact List.cons_prefix_cons.mpr ⟨rfl, hstart⟩
        · rw [CharClass.has_single.mp hd] at honward
          have hpos : pos + 1 + fixed.length = pos + (c :: fixed).length := by
            rw [List.length_cons]
            omega
          simp only [Cursor.past, hpos] at honward
          exact honward
      · cases hm

def Kept (whole : Text) (slots : List (Nat × Nat)) (index : Nat) (inner : Text) : Prop :=
  ∃ start stop, slots.lookup (slot index) = some start ∧ slots.lookup (slot index + 1) = some stop ∧
    (Span.mk start stop).slice whole = inner

theorem Kept.group? {whole inner : Text} {slots : List (Nat × Nat)} {index : Nat} {span : Span}
    (h : Kept whole slots index inner) (hi : index ≠ 0) :
    ((Match.mk span slots).group? index).map (·.slice whole) = some inner := by
  obtain ⟨start, stop, hstart, hstop, hslice⟩ := h
  simp only [Match.group?, if_neg hi, hstart, hstop]
  exact congrArg some hslice

theorem slice_between (left inner behind : Text) :
    (Span.mk left.length (left ++ inner).length).slice (left ++ (inner ++ behind)) = inner := by
  simp [Span.slice]

section

variable {first body onward : Pattern} {index : Nat} {prev : Option Char} {left rest whole : Text}
  {slots : List (Nat × Nat)} {found : Spot}

theorem mem_ends_plain (hf : first.groupless = true) (hwhole : whole = left ++ rest)
    (h : found ∈ (seq first onward).ends (⟨left.length, prev, rest⟩, slots)) :
    ∃ piece behind, rest = piece ++ behind ∧ first.Reads prev piece behind ∧
      whole = (left ++ piece) ++ behind ∧ found ∈ onward.ends
        (⟨(left ++ piece).length, Text.lastFrom prev piece, behind⟩, slots) := by
  obtain ⟨⟨here, held⟩, hm, hfound⟩ := List.mem_flatMap.mp h
  obtain ⟨piece, hpiece, hpast, hreads⟩ := mem_ends hm
  have hheld : held = slots := ends_slots hf _ _ hm
  simp only at hpiece hpast hreads
  refine ⟨piece, here.rest, hpiece, hreads, by rw [hwhole, hpiece, List.append_assoc], ?_⟩
  have hhere : here = ⟨(left ++ piece).length, Text.lastFrom prev piece, here.rest⟩ := by
    rw [hpast, hpiece]
    simp [Cursor.past]
  rw [← hheld, ← hhere]
  exact hfound

theorem mem_ends_fixed {fixed : Text} (hwhole : whole = left ++ rest)
    (h : found ∈ (lit fixed onward).ends (⟨left.length, prev, rest⟩, slots)) :
    ∃ behind, rest = fixed ++ behind ∧ whole = (left ++ fixed) ++ behind ∧ found ∈ onward.ends
      (⟨(left ++ fixed).length, Text.lastFrom prev fixed, behind⟩, slots) := by
  obtain ⟨⟨behind, rfl⟩, hfound⟩ := mem_ends_lit h
  simp only [Cursor.past, List.drop_left, ← List.length_append] at hfound
  exact ⟨behind, rfl, by rw [hwhole, List.append_assoc], hfound⟩

/-- Behind a group its slots lie around what its body has read, and those of other groups are as they
were. -/
theorem mem_ends_group (hb : body.groupless = true) (hwhole : whole = left ++ rest)
    (h : found ∈ (seq (group index body) onward).ends (⟨left.length, prev, rest⟩, slots)) :
    ∃ inner behind slots', rest = inner ++ behind ∧ body.Reads prev inner behind ∧
      whole = (left ++ inner) ++ behind ∧
      found ∈ onward.ends (⟨(left ++ inner).length, Text.lastFrom prev inner, behind⟩, slots') ∧
        Kept whole slots' index inner ∧
          ∀ other text, other ≠ index → Kept whole slots other text →
            Kept whole slots' other text := by
  obtain ⟨closed, hclosed, hfound⟩ := List.mem_flatMap.mp h
  obtain ⟨⟨here, held⟩, hm, rfl⟩ := List.mem_map.mp hclosed
  obtain ⟨inner, hinner, hpast, hreads⟩ := mem_ends hm
  have hheld : held = (slot index, left.length) :: slots := ends_slots hb _ _ hm
  simp only at hinner hpast hreads hfound
  have hhere : here = ⟨(left ++ inner).length, Text.lastFrom prev inner, here.rest⟩ := by
    rw [hpast, hinner]
    simp [Cursor.past]
  have hpos : here.pos = (left ++ inner).length := congrArg Cursor.pos hhere
  rw [hheld, hpos, hhere] at hfound
  have hnext : (slot index == slot index + 1) = false := by simp
  refine ⟨inner, here.rest, _, hinner, hreads, by rw [hwhole, hinner, List.append_assoc], hfound,
    ?_, ?_⟩
  · refine ⟨left.length, (left ++ inner).length, ?_, ?_, ?_⟩
    · simp [List.lookup_cons, hnext]
    · simp
    · rw [hwhole, hinner]
      exact slice_between left inner here.rest
  · rintro other text hne ⟨start, stop, hstart, hstop, hslice⟩
    refine ⟨start, stop, ?_, ?_, hslice⟩
    · have h₁ : (slot other == slot index + 1) = false := by
        simp only [slot, beq_eq_false_iff_ne]
        omega
      have h₂ : (slot other == slot index) = false := by
        simp only [slot, beq_eq_false_iff_ne]
        omega
      simpa [List.lookup_cons, h₁, h₂] using hstart
    · have h₁ : (slot other + 1 == slot index + 1) = false := by
        simp only [slot, beq_eq_false_iff_ne]
        omega
      have h₂ : (slot other + 1 == slot index) = false := by
        simp only [slot, beq_eq_false_iff_ne]
        omega
      simpa [List.lookup_cons, h₁, h₂] using hstop

theorem mem_ends_last (ho : onward.groupless = true)
    (h : found ∈ onward.ends (⟨left.length, prev, rest⟩, slots)) :
    ∃ piece, rest = piece ++ found.1.rest ∧ onward.Reads prev piece found.1.rest ∧
      found.2 = slots := by
  obtain ⟨piece, hpiece, -, hreads⟩ := mem_ends h
  exact ⟨piece, hpiece, hreads, ends_slots ho _ _ h⟩

end

theorem mem_ends_of_matchAt? {pattern : Pattern} {here : Cursor} {hit : Match}
    (h : pattern.matchAt? here = some hit) :
    ∃ spot ∈ pattern.ends (here, []), hit = matchOf here spot := by
  obtain ⟨spot, hspot, rfl⟩ := Option.map_eq_some_iff.mp h
  exact ⟨spot, List.mem_of_mem_head? hspot, rfl⟩

end Recast.Pattern
