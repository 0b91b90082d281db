import Recast.Proofs.Pattern.Search

/-! Replacing all matches of a pattern in one walk over the text. A settled pattern that consumes
something is swept place by place: where it matches, the match is replaced and passed over, and
anywhere else the character is kept. The sweep of the library, which looks ahead to the next match,
finds the same matches, and splicing over them gives the same text. -/

namespace Recast

namespace Pattern

def width? (pattern : Pattern) (prev : Option Char) (rest : Text) : Option Nat :=
  (pattern.ends (⟨0, prev, rest⟩, [])).head?.map (·.1.pos)

def hitsFrom (pattern : Pattern) : Nat → Nat → Option Char → Text → List Match
  | _, _, _, [] => []
  | skip + 1, pos, _, c :: rest => pattern.hitsFrom skip (pos + 1) (some c) rest
  | 0, pos, prev, c :: rest =>
    match pattern.matchAt? ⟨pos, prev, c :: rest⟩ with
    | none => pattern.hitsFrom 0 (pos + 1) (some c) rest
    | some found =>
      found :: pattern.hitsFrom (found.span.stop - pos - 1) (pos + 1) (some c) rest

/-- The text with every match replaced. `skip` characters are left out first. -/
def rewriteFrom (pattern : Pattern) (new : Text → Text) : Nat → Option Char → Text → Text
  | _, _, [] => []
  | skip + 1, _, c :: rest => pattern.rewriteFrom new skip (some c) rest
  | 0, prev, c :: rest =>
    match pattern.width? prev (c :: rest) with
    | none => c :: pattern.rewriteFrom new 0 (some c) rest
    | some n => new ((c :: rest).take n) ++ pattern.rewriteFrom new (n - 1) (some c) rest

variable {pattern : Pattern}

theorem ends_at (pattern : Pattern) (pos : Nat) (prev : Option Char) (rest : Text) :
    pattern.ends (⟨pos, prev, rest⟩, []) =
      (pattern.ends (⟨0, prev, rest⟩, [])).map (Spot.shift pos []) := by
  rw [← ends_shift]
  rfl

theorem matchAt?_span (pattern : Pattern) (pos : Nat) (prev : Option Char) (rest : Text) :
    (pattern.matchAt? ⟨pos, prev, rest⟩).map (·.span) =
      (pattern.width? prev rest).map fun n => ⟨pos, pos + n⟩ := by
  rw [matchAt?, width?, ends_at, List.head?_map]
  simp only [Option.map_map]
  rfl

theorem width?_eq_none_iff (pos : Nat) (prev : Option Char) (rest : Text) :
    pattern.width? prev rest = none ↔ pattern.matchAt? ⟨pos, prev, rest⟩ = none := by
  have h := matchAt?_span pattern pos prev rest
  constructor
  · intro hw
    rw [hw] at h
    simpa using h
  · intro hm
    rw [hm] at h
    simpa using h.symm

theorem width?_of_matchAt? {pos : Nat} {prev : Option Char} {rest : Text} {found : Match}
    (h : pattern.matchAt? ⟨pos, prev, rest⟩ = some found) :
    ∃ n, pattern.width? prev rest = some n ∧ found.span = ⟨pos, pos + n⟩ := by
  have hspan := matchAt?_span pattern pos prev rest
  rw [h, Option.map_some] at hspan
  obtain ⟨n, hn, heq⟩ := Option.map_eq_some_iff.mp hspan.symm
  exact ⟨n, hn, heq.symm⟩

theorem width?_le {prev : Option Char} {rest : Text} {n : Nat}
    (h : pattern.width? prev rest = some n) : n ≤ rest.length := by
  obtain ⟨found, hf, rfl⟩ := Option.map_eq_some_iff.mp h
  obtain ⟨u, hu, hp⟩ := ends_reaches pattern _ found (List.mem_of_mem_head? hf)
  rw [hp]
  simp only [Cursor.past, Nat.zero_add]
  have hlen := congrArg List.length hu
  simp only [List.length_append] at hlen
  omega

theorem width?_pos (hc : pattern.consumes = true) {prev : Option Char} {rest : Text} {n : Nat}
    (h : pattern.width? prev rest = some n) : 0 < n := by
  obtain ⟨found, hf, rfl⟩ := Option.map_eq_some_iff.mp h
  have hmem := List.mem_of_mem_head? hf
  obtain ⟨u, hu, hp⟩ := ends_reaches pattern _ found hmem
  have hlt := ends_consumes hc _ found hmem
  rw [hp]
  simp only [Cursor.past, Nat.zero_add]
  have hlen := congrArg List.length hu
  simp only [List.length_append] at hlen hlt
  omega

theorem matchAt?_nil (hc : pattern.consumes = true) (pos : Nat) (prev : Option Char) :
    pattern.matchAt? ⟨pos, prev, []⟩ = none := by
  simp [matchAt?, ends_nil_of_consumes hc]

theorem matchAt?_bounds (hc : pattern.consumes = true) {pos : Nat} {prev : Option Char}
    {rest : Text} {found : Match} (h : pattern.matchAt? ⟨pos, prev, rest⟩ = some found) :
    found.span.start = pos ∧ pos < found.span.stop := by
  obtain ⟨n, hn, hspan⟩ := width?_of_matchAt? h
  have := width?_pos hc hn
  rw [hspan]
  exact ⟨rfl, by simp only; omega⟩

theorem leftmost?_bounds (hc : pattern.consumes = true) (rest : Text) :
    ∀ {pos : Nat} {prev : Option Char} {found : Match},
      pattern.leftmost? pos prev rest = some found →
      pos ≤ found.span.start ∧ found.span.start < found.span.stop := by
  induction rest with
  | nil =>
    intro pos prev found h
    rw [leftmost?, matchAt?_nil hc] at h
    cases h
  | cons c rest ih =>
    intro pos prev found h
    rw [leftmost?] at h
    cases hm : pattern.matchAt? ⟨pos, prev, c :: rest⟩ with
    | none =>
      rw [hm, Option.none_or] at h
      have := ih h
      omega
    | some first =>
      rw [hm, Option.some_or, Option.some.injEq] at h
      subst h
      have := matchAt?_bounds hc hm
      omega

section

variable (hs : pattern.settled = true) (hc : pattern.consumes = true)

include hs hc

theorem probe_eq (behind : Bool) (pos : Nat) (prev : Option Char) (rest : Text) :
    Automaton.probe pattern.automaton behind ⟨pos, prev, rest⟩ =
      match pattern.leftmost? pos prev rest with
      | none => .halt
      | some found => .hit found found.span.stop := by
  rw [Automaton.probe, Automaton.search?_eq_leftmost? hs]
  cases hl : pattern.leftmost? pos prev rest with
  | none => rfl
  | some found =>
    have hb := leftmost?_bounds hc rest hl
    have hne : found.span.stop ≠ pos := by omega
    simp [hne]

/-- Where nothing matches, a sweep that looks ahead goes on as one that moves by a character. -/
theorem sweepFrom_of_no_match {pos : Nat} {prev : Option Char} {c : Char} {rest : Text}
    (behind : Bool) (hm : pattern.matchAt? ⟨pos, prev, c :: rest⟩ = none) :
    sweepFrom (Automaton.probe pattern.automaton) 0 behind pos prev (c :: rest) =
      sweepFrom (Automaton.probe pattern.automaton) 0 false (pos + 1) (some c) rest := by
  rw [sweepFrom, probe_eq hs hc, leftmost?, hm, Option.none_or]
  cases hl : pattern.leftmost? (pos + 1) (some c) rest with
  | none => cases rest <;> simp [sweepFrom, probe_eq hs hc, hl]
  | some found =>
    have hb := leftmost?_bounds hc rest hl
    cases rest with
    | nil =>
      rw [leftmost?, matchAt?_nil hc] at hl
      cases hl
    | cons d rest =>
      have hstop : ¬ found.span.stop ≤ pos := by omega
      have hstop' : ¬ found.span.stop ≤ pos + 1 := by omega
      have hskip : found.span.stop - pos - 1 = (found.span.stop - (pos + 1) - 1) + 1 := by omega
      simp only [sweepFrom, probe_eq hs hc, hl, if_neg hstop, if_neg hstop', hskip]

theorem sweepFrom_eq_hitsFrom (rest : Text) : ∀ (skip : Nat) (behind : Bool) (pos : Nat)
    (prev : Option Char),
    sweepFrom (Automaton.probe pattern.automaton) skip behind pos prev rest =
      pattern.hitsFrom skip pos prev rest := by
  induction rest with
  | nil =>
    intro skip behind pos prev
    cases skip with
    | zero => simp [sweepFrom, hitsFrom, probe_eq hs hc, leftmost?, matchAt?_nil hc]
    | succ skip => rfl
  | cons c rest ih =>
    intro skip behind pos prev
    cases skip with
    | succ skip => exact ih skip behind (pos + 1) (some c)
    | zero =>
      cases hm : pattern.matchAt? ⟨pos, prev, c :: rest⟩ with
      | none =>
        rw [sweepFrom_of_no_match hs hc behind hm, ih, hitsFrom, hm]
      | some found =>
        have hb := matchAt?_bounds hc hm
        have hstop : ¬ found.span.stop ≤ pos := by omega
        rw [sweepFrom, probe_eq hs hc, leftmost?, hitsFrom, hm, Option.some_or]
        simp only [if_neg hstop, ih]

/-- The matches of a text, from left to right and without overlap, are found place by place. -/
theorem findAll_eq_hitsFrom (text : Text) :
    pattern.findAll text = pattern.hitsFrom 0 0 none text :=
  sweepFrom_eq_hitsFrom hs hc text 0 false 0 none

end

theorem find?_eq_leftmost? (hs : pattern.settled = true) (text : Text) :
    pattern.find? text = pattern.leftmost? 0 none text :=
  Automaton.search?_eq_leftmost? hs (Cursor.start text)

theorem hitsFrom_bounds (hc : pattern.consumes = true) (rest : Text) :
    ∀ (skip pos : Nat) (prev : Option Char), ∀ found ∈ pattern.hitsFrom skip pos prev rest,
      pos + skip ≤ found.span.start ∧ found.span.start < found.span.stop := by
  induction rest with
  | nil =>
    intro skip pos prev found hf
    simp [hitsFrom] at hf
  | cons c rest ih =>
    intro skip pos prev found hf
    cases skip with
    | succ skip =>
      have := ih skip (pos + 1) (some c) found hf
      omega
    | zero =>
      cases hm : pattern.matchAt? ⟨pos, prev, c :: rest⟩ with
      | none =>
        rw [hitsFrom, hm] at hf
        have := ih 0 (pos + 1) (some c) found hf
        omega
      | some first =>
        rw [hitsFrom, hm] at hf
        have hfirst := matchAt?_bounds hc hm
        rcases List.mem_cons.mp hf with rfl | hf
        · omega
        · have := ih _ (pos + 1) (some c) found hf
          omega

end Pattern

theorem spliceFrom_cons {pos : Nat} {c : Char} {rest : Text} {edits : List (Span × Text)}
    (h : ∀ edit ∈ edits, pos < edit.1.start ∧ edit.1.start ≤ edit.1.stop) :
    spliceFrom pos (c :: rest) edits = c :: spliceFrom (pos + 1) rest edits := by
  cases edits with
  | nil => rfl
  | cons edit more =>
    obtain ⟨span, new⟩ := edit
    have hb := h (span, new) List.mem_cons_self
    simp only at hb
    have hstart : span.start - pos = (span.start - (pos + 1)) + 1 := by omega
    have hstop : span.stop - pos = (span.stop - (pos + 1)) + 1 := by omega
    simp only [spliceFrom, hstart, hstop, List.take_succ_cons, List.drop_succ_cons,
      List.cons_append]

namespace Pattern

variable {pattern : Pattern}

def editsBy (new : Text → Text) (text : Text) (hits : List Match) : List (Span × Text) :=
  hits.map fun found => (found.span, new (found.span.slice text))

theorem spliceFrom_editsBy (hc : pattern.consumes = true) (new : Text → Text) (rest : Text) :
    ∀ (before : Text) (skip pos : Nat) (prev : Option Char), before.length = pos →
      spliceFrom (pos + skip) (rest.drop skip)
          (editsBy new (before ++ rest) (pattern.hitsFrom skip pos prev rest)) =
        pattern.rewriteFrom new skip prev rest := by
  induction rest with
  | nil =>
    intro before skip pos prev _
    simp [hitsFrom, rewriteFrom, editsBy, spliceFrom]
  | cons c rest ih =>
    intro before skip pos prev hpos
    have hnext : before ++ c :: rest = (before ++ [c]) ++ rest := by simp
    have hlen : (before ++ [c]).length = pos + 1 := by simp [hpos]
    cases skip with
    | succ skip =>
      have := ih (before ++ [c]) skip (pos + 1) (some c) hlen
      rw [← hnext, Nat.add_right_comm] at this
      exact this
    | zero =>
      rw [Nat.add_zero, List.drop_zero]
      cases hm : pattern.matchAt? ⟨pos, prev, c :: rest⟩ with
      | none =>
        have hw := (width?_eq_none_iff pos prev (c :: rest)).mpr hm
        simp only [hitsFrom, hm, rewriteFrom, hw]
        rw [spliceFrom_cons, hnext]
        · exact congrArg (c :: ·) (ih (before ++ [c]) 0 (pos + 1) (some c) hlen)
        · intro edit he
          obtain ⟨found, hf, rfl⟩ := List.mem_map.mp he
          have := hitsFrom_bounds hc rest 0 (pos + 1) (some c) found hf
          exact ⟨by simp only; omega, Nat.le_of_lt this.2⟩
      | some found =>
        obtain ⟨n, hw, hspan⟩ := width?_of_matchAt? hm
        have hn := width?_pos hc hw
        have hresume : pos + 1 + (n - 1) = pos + n := by omega
        have hdrop : (c :: rest).drop n = rest.drop (n - 1) := by
          obtain ⟨m, rfl⟩ := Nat.exists_eq_add_of_lt hn
          simp
        have hslice : (Span.mk pos (pos + n)).slice (before ++ c :: rest) = (c :: rest).take n := by
          simp [Span.slice, ← hpos]
        have hrest := ih (before ++ [c]) (n - 1) (pos + 1) (some c) hlen
        rw [← hnext, hresume] at hrest
        simp only [hitsFrom, hm, rewriteFrom, hw, editsBy, List.map_cons, spliceFrom, hspan,
          hslice, Nat.sub_self, List.take_zero, List.nil_append, Nat.add_sub_cancel_left, hdrop]
        exact congrArg (new ((c :: rest).take n) ++ ·) hrest

def rewrite (pattern : Pattern) (new : Text → Text) (text : Text) : Text :=
  pattern.rewriteFrom new 0 none text

theorem splice_findAll (hs : pattern.settled = true) (hc : pattern.consumes = true)
    (new : Text → Text) (text : Text) :
    splice text (editsBy new text (pattern.findAll text)) = pattern.rewrite new text := by
  rw [findAll_eq_hitsFrom hs hc]
  exact spliceFrom_editsBy hc new text [] 0 0 none rfl

end Pattern

end Recast
