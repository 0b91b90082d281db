import Recast.Proofs.Brackets
import Recast.Proofs.Catalog.Form

/-! Groups of brackets in a pattern. A pattern looks through groups to a fixed depth only, and reads a
text of them exactly when no more brackets are open at once. -/

namespace Recast

namespace Catalog.Form

open Pattern

/-- Any text whose brackets are nested to a depth of at most `depth`. -/
def nest (opening closing : Char) : Nat → Pattern
  | 0 => between opening closing
  | depth + 1 => nested opening closing (nest opening closing depth)

def others (opening closing : Char) : CharClass :=
  .neg (.either (.single opening) (.single closing))

def round (opening closing : Char) (inner : Pattern) : Pattern :=
  alt (char (others opening closing)) (lit [opening] (seq inner (one closing)))

variable {opening closing : Char} {inner : Pattern} {prev : Option Char} {text rest : Text}

theorem has_others {c : Char} :
    (others opening closing).has c = true ↔ c ≠ opening ∧ c ≠ closing := by
  rw [others, CharClass.has, CharClass.has, Bool.not_eq_true', Bool.or_eq_false_iff]
  simp only [← Bool.not_eq_true, CharClass.has_single, ne_eq]

theorem reads_round :
    (round opening closing inner).Reads prev text rest ↔
      (∃ c, text = [c] ∧ c ≠ opening ∧ c ≠ closing) ∨
        ∃ group, text = opening :: (group ++ [closing]) ∧
          inner.Reads (some opening) group (closing :: rest) := by
  rw [round, reads_alt, reads_char]
  simp only [has_others]
  refine or_congr Iff.rfl ?_
  rw [reads_lit]
  constructor
  · rintro ⟨_, rfl, hseq⟩
    obtain ⟨group, last, rfl, hgroup, hlast⟩ := reads_seq.mp hseq
    obtain ⟨c, rfl, hc⟩ := reads_char.mp hlast
    rw [CharClass.has_single.mp hc] at hgroup ⊢
    exact ⟨group, rfl, hgroup⟩
  · rintro ⟨group, rfl, hgroup⟩
    exact ⟨group ++ [closing], rfl, reads_seq.mpr ⟨group, [closing], rfl, hgroup,
      reads_char.mpr ⟨closing, rfl, CharClass.has_single.mpr rfl⟩⟩⟩

section

variable (hne : opening ≠ closing)

include hne

/-- Nested text is read in rounds. The induction is on its length: a round is a character or a
group, and what follows it is nested as well. -/
theorem exists_rounds {depth : Nat}
    (hinner : ∀ {prev : Option Char} {text rest : Text}, Text.Nested opening closing depth text →
      inner.Reads prev text rest) (rest : Text) :
    ∀ {prev : Option Char} {text : Text}, Text.Nested opening closing (depth + 1) text →
      ∃ n, (round opening closing inner).Times n prev text rest := by
  intro prev text h
  induction hlength : text.length using Nat.strongRecOn generalizing prev text with
  | ind length ih =>
    subst hlength
    cases text with
    | nil => exact ⟨0, rfl⟩
    | cons c text =>
      have hopened := h.1
      by_cases ho : c = opening
      · subst ho
        rw [Text.opened_opening] at hopened
        obtain ⟨group, after, rfl, hgroup, -⟩ := Text.exists_closing hne hopened 0 rfl
          (Nat.le_refl 0)
        obtain ⟨hnested, hafter⟩ := (Text.nested_group_iff hne hgroup).mp h
        obtain ⟨n, hn⟩ := ih after.length (by simp; omega) hafter rfl
        exact ⟨n + 1, c :: (group ++ [closing]), after, by simp,
          reads_round.mpr (.inr ⟨group, rfl, hinner hnested⟩), hn⟩
      · by_cases hc : c = closing
        · rw [hc, Text.opened_closing_zero hne] at hopened
          cases hopened
        · obtain ⟨n, hn⟩ := ih text.length (by simp) ((Text.nested_other_iff ⟨ho, hc⟩).mp h) rfl
          exact ⟨n + 1, [c], text, rfl, reads_round.mpr (.inl ⟨c, rfl, ho, hc⟩), hn⟩

/-- A nest reads exactly the texts whose brackets are nested as deep as it looks. -/
theorem reads_nest (depth : Nat) :
    ∀ {prev : Option Char} {text rest : Text},
      (nest opening closing depth).Reads prev text rest ↔
        Text.Nested opening closing depth text := by
  induction depth with
  | zero =>
    intro prev text rest
    have hreads : (nest opening closing 0).Reads prev text rest ↔
        0 ≤ text.length ∧ ∀ c ∈ text, (others opening closing).has c = true := reads_many
    rw [Text.nested_zero_iff hne, hreads]
    simp only [has_others, Nat.zero_le, true_and]
  | succ depth ih =>
    intro prev text rest
    refine reads_repeated.trans ?_
    constructor
    · rintro ⟨n, -, -, htimes⟩
      induction n generalizing prev text with
      | zero =>
        obtain rfl : text = [] := htimes
        exact ⟨rfl, Nat.zero_le _⟩
      | succ n ihn =>
        obtain ⟨first, more, rfl, hround, hmore⟩ := htimes
        rcases reads_round.mp hround with ⟨c, rfl, hc⟩ | ⟨group, rfl, hgroup⟩
        · exact (Text.nested_other_iff hc).mpr (ihn hmore)
        · have hnested := ih.mp hgroup
          have := (Text.nested_group_iff hne hnested.1).mpr ⟨hnested, ihn hmore⟩
          simpa using this
    · intro h
      obtain ⟨n, hn⟩ := exists_rounds hne (fun h => ih.mpr h) rest h
      exact ⟨n, Nat.zero_le n, by simp, hn⟩

end

end Catalog.Form

end Recast
