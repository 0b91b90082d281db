import Recast.Proofs.Pattern.Occurs

/-! Patterns that begin with a fixed text. A text on its own occurs as a pattern exactly where it is
within the other text. -/

namespace Recast

structure Text.Spelling (string : String) where
  chars : Text
  reads : string.toList = chars

def Text.Spelling.of (chars : Text) : Text.Spelling (String.ofList chars) :=
  ⟨chars, String.toList_ofList⟩

/-- The characters of a string. They are written out when a definition is read, so that a proof by
evaluation need not decode the string. -/
def Text.spell (string : String) (spelling : Text.Spelling string := by exact .of _) : Text :=
  spelling.chars

theorem Text.spell_eq {string : String} (spelling : Text.Spelling string) :
    Text.spell string spelling = string.toList :=
  spelling.reads.symm

@[simp]
theorem Text.Spelling.chars_of (chars : Text) : (Text.Spelling.of chars).chars = chars := rfl

@[simp]
theorem CharClass.has_single {c d : Char} : (CharClass.single c).has d = true ↔ d = c := by
  simp only [single, has, inRange, Bool.and_eq_true, decide_eq_true_eq]
  constructor
  · rintro ⟨h₁, h₂⟩
    exact Char.toNat_inj.mp (Nat.le_antisymm h₂ h₁)
  · rintro rfl
    exact ⟨Nat.le_refl _, Nat.le_refl _⟩

namespace Pattern

def lit (fixed : Text) (onward : Pattern) : Pattern :=
  fixed.foldr (fun c onward => seq (char (.single c)) onward) onward

def exactly (fixed : Text) : Pattern := lit fixed empty

def Begins (pattern : Pattern) (fixed : Text) : Prop :=
  ∀ {prev : Option Char} {text rest : Text}, pattern.Reads prev text rest → fixed <+: text

variable {onward : Pattern} {prev : Option Char} {fixed text rest : Text}

theorem reads_lit :
    (lit fixed onward).Reads prev text rest ↔
      ∃ more, text = fixed ++ more ∧ onward.Reads (Text.lastFrom prev fixed) more rest := by
  induction fixed generalizing prev text with
  | nil => simp [lit, Text.lastFrom]
  | cons c fixed ih =>
    change (seq (char (.single c)) (lit fixed onward)).Reads prev text rest ↔ _
    simp only [reads_seq, reads_char, CharClass.has_single]
    constructor
    · rintro ⟨left, right, rfl, ⟨_, rfl, rfl⟩, h⟩
      obtain ⟨more, rfl, hmore⟩ := ih.mp h
      exact ⟨more, rfl, hmore⟩
    · rintro ⟨more, rfl, hmore⟩
      exact ⟨[c], fixed ++ more, rfl, ⟨c, rfl, rfl⟩, ih.mpr ⟨more, rfl, hmore⟩⟩

theorem begins_lit : (lit fixed onward).Begins fixed := by
  intro prev text rest h
  obtain ⟨more, rfl, _⟩ := reads_lit.mp h
  exact List.prefix_append fixed more

theorem begins_look {condition : Look} (h : onward.Begins fixed) :
    (seq (look condition) onward).Begins fixed := by
  intro prev text rest hreads
  obtain ⟨left, right, rfl, hlook, honward⟩ := reads_seq.mp hreads
  obtain ⟨rfl, _⟩ := reads_look.mp hlook
  exact h honward

@[simp]
theorem reads_exactly : (exactly fixed).Reads prev text rest ↔ text = fixed := by
  rw [exactly, reads_lit]
  constructor
  · rintro ⟨more, rfl, hmore⟩
    rw [reads_empty.mp hmore, List.append_nil]
  · rintro rfl
    exact ⟨[], by simp, by simp⟩

theorem width?_exactly (fixed : Text) (prev : Option Char) (text : Text) :
    (exactly fixed).width? prev text =
      if fixed.isPrefixOf text = true then some fixed.length else none := by
  split
  next hbegins =>
    obtain ⟨rest, rfl⟩ := List.isPrefixOf_iff_prefix.mp hbegins
    refine width?_of_reads (reads_exactly.mpr rfl) fun first more _ hreads => ?_
    rw [reads_exactly.mp hreads]
  next hbegins =>
    refine width?_eq_none_iff_reads.mpr fun first more heq hreads => hbegins ?_
    rw [heq, reads_exactly.mp hreads]
    exact List.isPrefixOf_iff_prefix.mpr (List.prefix_append _ _)

theorem occurs_exactly (fixed text : Text) (prev : Option Char) :
    (exactly fixed).occurs prev text = fixed.within text := by
  rw [Bool.eq_iff_iff, occurs_iff, Text.within_iff_isInfix]
  constructor
  · rintro ⟨before, found, after, rfl, h⟩
    rw [reads_exactly.mp h]
    exact ⟨before, after, by simp⟩
  · rintro ⟨before, after, rfl⟩
    exact ⟨before, fixed, after, by simp, by simp⟩

theorem Begins.width?_eq_none {pattern : Pattern} (h : pattern.Begins fixed)
    (hno : ¬ fixed <+: text) : pattern.width? prev text = none := by
  refine width?_eq_none_iff_reads.mpr ?_
  rintro first more rfl hreads
  exact hno ((h hreads).trans (List.prefix_append first more))

end Pattern

end Recast
