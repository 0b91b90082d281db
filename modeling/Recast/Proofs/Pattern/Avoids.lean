import Mathlib.Data.List.Basic
import Recast.Proofs.Pattern.Literal

/-! Characters that no match of a pattern holds. They are read off the classes that the pattern is
built of, and not off its written form: a match is a sequence of characters of these classes, whatever
the pattern looks at and however often its parts are repeated. -/

namespace Recast.Pattern

/-- None of the classes of a pattern has any of the marks. -/
def avoids (marks : List Char) : Pattern → Bool
  | empty => true
  | char members => marks.all fun mark => !members.has mark
  | look _ => true
  | group _ body => body.avoids marks
  | seq first second => first.avoids marks && second.avoids marks
  | alt first second => first.avoids marks && second.avoids marks
  | repeated body _ => body.avoids marks

variable {pattern : Pattern} {marks : List Char} {prev : Option Char} {text rest : Text}

theorem avoids_lit {fixed : Text} (hfixed : (fixed.all fun c => (char (.single c)).avoids marks) = true)
    (h : pattern.avoids marks = true) : (lit fixed pattern).avoids marks = true := by
  induction fixed with
  | nil => exact h
  | cons c fixed ih =>
    rw [List.all_cons, Bool.and_eq_true] at hfixed
    exact Bool.and_eq_true_iff.mpr ⟨hfixed.1, ih hfixed.2⟩

theorem Times.disjoint (hbody : ∀ {prev text rest}, pattern.Reads prev text rest →
    text.Disjoint marks) (n : Nat) : ∀ {prev : Option Char} {text : Text},
      pattern.Times n prev text rest → text.Disjoint marks := by
  induction n with
  | zero =>
    rintro prev text rfl
    exact List.disjoint_nil_left marks
  | succ n ih =>
    rintro prev _ ⟨first, more, rfl, hfirst, hmore⟩
    exact List.disjoint_append_left.mpr ⟨hbody hfirst, ih hmore⟩

theorem Reads.disjoint (ha : pattern.avoids marks = true) (hr : pattern.Reads prev text rest) :
    text.Disjoint marks := by
  induction pattern generalizing prev text rest with
  | empty =>
    rw [reads_empty.mp hr]
    exact List.disjoint_nil_left marks
  | char members =>
    obtain ⟨c, rfl, hc⟩ := reads_char.mp hr
    refine List.disjoint_cons_left.mpr ⟨fun hmark => ?_, List.disjoint_nil_left marks⟩
    have hnot := List.all_eq_true.mp ha c hmark
    rw [hc] at hnot
    cases hnot
  | look condition =>
    rw [(reads_look.mp hr).1]
    exact List.disjoint_nil_left marks
  | group index body ih => exact ih ha (reads_group.mp hr)
  | seq first second ih₁ ih₂ =>
    obtain ⟨ha₁, ha₂⟩ := Bool.and_eq_true_iff.mp ha
    obtain ⟨left, right, rfl, hleft, hright⟩ := reads_seq.mp hr
    exact List.disjoint_append_left.mpr ⟨ih₁ ha₁ hleft, ih₂ ha₂ hright⟩
  | alt first second ih₁ ih₂ =>
    obtain ⟨ha₁, ha₂⟩ := Bool.and_eq_true_iff.mp ha
    exact (reads_alt.mp hr).elim (ih₁ ha₁) (ih₂ ha₂)
  | repeated body bounds ih =>
    obtain ⟨n, -, -, htimes⟩ := reads_repeated.mp hr
    exact Times.disjoint (ih ha) n htimes

end Recast.Pattern
