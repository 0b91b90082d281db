import Recast.Proofs.Pattern.Occurs

/-! What a search finds right where it begins. A search that begins at a place of a text finds the most
preferred match there, if there is one, and every match that is found in a text is found again by a
search that begins where the match does. -/

namespace Recast.Pattern

/-- A search that begins where a span does finds just this span. -/
def Hits (pattern : Pattern) (text : Text) (span : Span) : Prop :=
  (Automaton.search? pattern.automaton (Cursor.ofPlace text span.start)).map (·.span) = some span

variable {pattern : Pattern} {text : Text}

section

variable (hc : pattern.consumes = true)

include hc

theorem leftmost?_here {pos stop : Nat} {prev : Option Char} {rest : Text} :
    (pattern.leftmost? pos prev rest).map (·.span) = some ⟨pos, stop⟩ ↔
      (pattern.matchAt? ⟨pos, prev, rest⟩).map (·.span) = some ⟨pos, stop⟩ := by
  cases rest with
  | nil => rfl
  | cons c rest =>
    rw [leftmost?]
    cases hm : pattern.matchAt? ⟨pos, prev, c :: rest⟩ with
    | some found => rfl
    | none =>
      rw [Option.none_or]
      constructor
      · intro h
        obtain ⟨found, hfound, hspan⟩ := Option.map_eq_some_iff.mp h
        have hstart := (leftmost?_bounds hc rest hfound).1
        rw [hspan] at hstart
        exact absurd hstart (Nat.not_succ_le_self pos)
      · intro h
        cases h

theorem matchAt?_of_mem_hitsFrom {rest : Text} : ∀ {before : Text} {skip : Nat} {hit : Match},
    text = before ++ rest →
      hit ∈ pattern.hitsFrom skip before.length (Text.lastFrom none before) rest →
        pattern.matchAt? (Cursor.ofPlace text hit.span.start) = some hit := by
  induction rest with
  | nil =>
    intro before skip hit _ hmem
    simp [hitsFrom] at hmem
  | cons c rest ih =>
    intro before skip hit htext hmem
    have hnext : text = (before ++ [c]) ++ rest := by simp [htext]
    have hlast : Text.lastFrom none (before ++ [c]) = some c := by rw [Text.lastFrom_append]; rfl
    have further {skip : Nat}
        (h : hit ∈ pattern.hitsFrom skip (before.length + 1) (some c) rest) :
        pattern.matchAt? (Cursor.ofPlace text hit.span.start) = some hit := by
      have hrest : hit ∈ pattern.hitsFrom skip (before ++ [c]).length
          (Text.lastFrom none (before ++ [c])) rest := by
        rwa [hlast, List.length_append, List.length_singleton]
      exact ih hnext hrest
    cases skip with
    | succ skip => exact further hmem
    | zero =>
      rw [hitsFrom] at hmem
      cases hm : pattern.matchAt? ⟨before.length, Text.lastFrom none before, c :: rest⟩ with
      | none =>
        rw [hm] at hmem
        exact further hmem
      | some first =>
        rw [hm] at hmem
        rcases List.mem_cons.mp hmem with rfl | hmem
        · rw [(matchAt?_bounds hc hm).1, Cursor.ofPlace, htext, List.take_left, List.drop_left, hm]
        · exact further hmem

variable (hs : pattern.settled = true)

include hs

theorem hits_iff {place stop : Nat} :
    pattern.Hits text ⟨place, stop⟩ ↔ ∃ n,
      pattern.width? (Text.lastFrom none (text.take place)) (text.drop place) = some n ∧
        stop = place + n := by
  rw [Hits, Automaton.search?_eq_leftmost? hs, Cursor.ofPlace]
  simp only
  rw [leftmost?_here hc, matchAt?_span, Option.map_eq_some_iff]
  simp only [Span.mk.injEq, true_and, eq_comm (a := stop)]

theorem hits_of_mem_findAll {hit : Match} (h : hit ∈ pattern.findAll text) :
    pattern.Hits text hit.span := by
  rw [findAll_eq_hitsFrom hs hc] at h
  have hwhole : text = [] ++ text := rfl
  have hmatch := matchAt?_of_mem_hitsFrom hc hwhole h
  obtain ⟨⟨start, stop⟩, slots⟩ := hit
  rw [Hits, Automaton.search?_eq_leftmost? hs]
  refine (leftmost?_here hc).mpr ?_
  exact congrArg (Option.map (·.span)) hmatch

end

end Recast.Pattern
