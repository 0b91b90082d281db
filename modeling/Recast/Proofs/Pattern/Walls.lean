import Recast.Proofs.Pattern.Literal

/-! Pieces of text that no match of a pattern reaches into: a match that begins before such a piece
ends before it, and none begins in it. A piece of this kind that is put in place of another one makes
no new match, if the pattern cannot tell the two apart from outside. So after a sweep that puts such
pieces in place of all matches, no match is left. -/

namespace Recast

def Text.wordy (c : Option Char) : Bool := c.any Text.isWord

namespace Text

theorem head?_append_of_ne_nil {text : Text} (h : text ≠ []) (rest : Text) :
    (text ++ rest).head? = text.head? := by
  cases text with
  | nil => exact absurd rfl h
  | cons c text => rfl

theorem lastFrom_eq_getLast? {text : Text} (h : text ≠ []) (prev : Option Char) :
    lastFrom prev text = text.getLast? := by
  induction text generalizing prev with
  | nil => exact absurd rfl h
  | cons c text ih =>
    cases text with
    | nil => rfl
    | cons d text =>
      rw [lastFrom, ih (by simp)]
      simp

end Text

namespace Pattern

def looksAll (test : Look → Bool) : Pattern → Bool
  | empty => true
  | char _ => true
  | look condition => test condition
  | group _ body => body.looksAll test
  | seq first second => first.looksAll test && second.looksAll test
  | alt first second => first.looksAll test && second.looksAll test
  | repeated body _ => body.looksAll test

/-- The pattern looks at nothing but what it matches. -/
def lookless (pattern : Pattern) : Bool := pattern.looksAll fun _ => false

def edged (pattern : Pattern) : Bool := pattern.looksAll fun condition => condition = .wordEdge .unicode

def lined (pattern : Pattern) : Bool := pattern.looksAll fun condition => condition = .lineStart .lf

/-- The conditions that pass a test hold alike around a text and within it, whether it stands between
`prev` and `rest` or between `prev'` and `rest'`. -/
def Alike (test : Look → Bool) (prev : Option Char) (rest : Text) (prev' : Option Char)
    (rest' : Text) : Prop :=
  ∀ condition, test condition = true → ∀ seen more,
    condition.holds ⟨0, Text.lastFrom prev seen, more ++ rest⟩ =
      condition.holds ⟨0, Text.lastFrom prev' seen, more ++ rest'⟩

namespace Alike

variable {test : Look → Bool} {prev prev' : Option Char} {rest rest' : Text}

theorem longer (h : Alike test prev rest prev' rest') (right : Text) :
    Alike test prev (right ++ rest) prev' (right ++ rest') := by
  intro condition ht seen more
  rw [← List.append_assoc, ← List.append_assoc]
  exact h condition ht seen (more ++ right)

theorem later (h : Alike test prev rest prev' rest') (left : Text) :
    Alike test (Text.lastFrom prev left) rest (Text.lastFrom prev' left) rest' := by
  intro condition ht seen more
  rw [← Text.lastFrom_append, ← Text.lastFrom_append]
  exact h condition ht (left ++ seen) more

end Alike

theorem Times.alike {pattern : Pattern} {test : Look → Bool}
    (hbody : ∀ {prev prev' : Option Char} {text rest rest' : Text},
      Alike test prev rest prev' rest' → pattern.Reads prev text rest →
        pattern.Reads prev' text rest') (n : Nat) :
    ∀ {prev prev' : Option Char} {text rest rest' : Text}, Alike test prev rest prev' rest' →
      pattern.Times n prev text rest → pattern.Times n prev' text rest' := by
  induction n with
  | zero => exact fun _ h => h
  | succ n ih =>
    rintro prev prev' _ rest rest' h ⟨first, more, rfl, hfirst, hmore⟩
    exact ⟨first, more, rfl, hbody (h.longer more) hfirst, ih (h.later first) hmore⟩

/-- A pattern reads the same text in surroundings that its conditions cannot tell apart. -/
theorem Reads.alike {pattern : Pattern} {test : Look → Bool} (hs : pattern.settled = true)
    (hl : pattern.looksAll test = true) : ∀ {prev prev' : Option Char} {text rest rest' : Text},
      Alike test prev rest prev' rest' → pattern.Reads prev text rest →
        pattern.Reads prev' text rest' := by
  induction pattern with
  | empty =>
    intro prev prev' text rest rest' h hr
    exact reads_empty.mpr (reads_empty.mp hr)
  | char members =>
    intro prev prev' text rest rest' h hr
    exact reads_char.mpr (reads_char.mp hr)
  | look condition =>
    intro prev prev' text rest rest' h hr
    obtain ⟨rfl, hholds⟩ := reads_look.mp hr
    exact reads_look.mpr ⟨rfl, (h condition hl [] []).symm.trans hholds⟩
  | group index body ih =>
    intro prev prev' text rest rest' h hr
    exact reads_group.mpr (ih hs hl h (reads_group.mp hr))
  | seq first second ih₁ ih₂ =>
    intro prev prev' text rest rest' h hr
    obtain ⟨hs₁, hs₂⟩ := Bool.and_eq_true_iff.mp hs
    obtain ⟨hl₁, hl₂⟩ := Bool.and_eq_true_iff.mp hl
    obtain ⟨left, right, rfl, hleft, hright⟩ := reads_seq.mp hr
    exact reads_seq.mpr
      ⟨left, right, rfl, ih₁ hs₁ hl₁ (h.longer right) hleft, ih₂ hs₂ hl₂ (h.later left) hright⟩
  | alt first second ih₁ ih₂ =>
    intro prev prev' text rest rest' h hr
    obtain ⟨hs₁, hs₂⟩ := Bool.and_eq_true_iff.mp hs
    obtain ⟨hl₁, hl₂⟩ := Bool.and_eq_true_iff.mp hl
    exact reads_alt.mpr ((reads_alt.mp hr).imp (ih₁ hs₁ hl₁ h) (ih₂ hs₂ hl₂ h))
  | repeated body bounds ih =>
    intro prev prev' text rest rest' h hr
    obtain ⟨hsbody, -⟩ := Bool.and_eq_true_iff.mp hs
    obtain ⟨n, hleast, hmost, htimes⟩ := reads_repeated.mp hr
    exact reads_repeated.mpr ⟨n, hleast, hmost, Times.alike (ih hsbody hl) n h htimes⟩

theorem Reads.ne_nil {pattern : Pattern} (hc : pattern.consumes = true) {prev : Option Char}
    {text rest : Text} (hr : pattern.Reads prev text rest) : text ≠ [] := by
  rintro rfl
  obtain ⟨found, hf, hrest⟩ := hr
  have hlt := ends_consumes hc _ found hf
  rw [hrest] at hlt
  simp at hlt

/-- A match that stands in a text which `rest` follows. -/
def Within (pattern : Pattern) (prev : Option Char) (text rest : Text) : Prop :=
  ∃ before found after, text = before ++ (found ++ after) ∧
    pattern.Reads (Text.lastFrom prev before) found (after ++ rest)

theorem occurs_iff_within (pattern : Pattern) (prev : Option Char) (text : Text) :
    pattern.occurs prev text = true ↔ pattern.Within prev text [] := by
  simp only [occurs_iff, Within, List.append_nil]

namespace Within

variable {pattern : Pattern} {prev prev' : Option Char} {first second text rest rest' : Text}

theorem append_left (h : pattern.Within prev first (second ++ rest)) :
    pattern.Within prev (first ++ second) rest := by
  obtain ⟨before, found, after, rfl, hr⟩ := h
  exact ⟨before, found, after ++ second, by simp, by simpa using hr⟩

theorem append_right (h : pattern.Within (Text.lastFrom prev first) second rest) :
    pattern.Within prev (first ++ second) rest := by
  obtain ⟨before, found, after, rfl, hr⟩ := h
  exact ⟨first ++ before, found, after, by simp, by simpa using hr⟩

theorem alike {test : Look → Bool} (hs : pattern.settled = true)
    (hl : pattern.looksAll test = true) (h : Alike test prev rest prev' rest')
    (hw : pattern.Within prev text rest) : pattern.Within prev' text rest' := by
  obtain ⟨before, found, after, rfl, hr⟩ := hw
  exact ⟨before, found, after, rfl, hr.alike hs hl ((h.longer after).later before)⟩

end Within

/-- A match that begins before the text ends before it. -/
def Stops (pattern : Pattern) (text : Text) : Prop :=
  ∀ {prev : Option Char} {left inside rest tail : Text}, left ≠ [] →
    pattern.Reads prev (left ++ inside) rest → inside ++ rest = text ++ tail → inside = []

/-- No match reaches into a piece of text, and none begins in it. -/
structure Shut (pattern : Pattern) (text : Text) : Prop where
  nonempty : text ≠ []
  stops : pattern.Stops text
  quiet : ∀ prev, pattern.Quiet prev text

/-- A match in a text with a shut piece in it stands before the piece or behind it. -/
theorem Shut.within {pattern : Pattern} {prev : Option Char} {first text second rest : Text}
    (hshut : pattern.Shut text) (h : pattern.Within prev (first ++ (text ++ second)) rest) :
    pattern.Within prev first (text ++ (second ++ rest)) ∨
      pattern.Within (Text.lastFrom prev (first ++ text)) second rest := by
  obtain ⟨before, found, after, heq, hr⟩ := h
  rcases List.append_eq_append_iff.mp heq with ⟨gap, rfl, hgap⟩ | ⟨gap, rfl, hgap⟩
  · -- The match begins in the piece or behind it.
    rw [Text.lastFrom_append] at hr
    rcases List.append_eq_append_iff.mp hgap with ⟨skipped, rfl, hsecond⟩ | ⟨left, rfl, hrest⟩
    · refine .inr ⟨skipped, found, after, hsecond, ?_⟩
      rw [Text.lastFrom_append]
      simpa using hr
    · by_cases hleft : left = []
      · subst hleft
        rw [List.append_nil]
        rw [List.nil_append] at hrest
        exact .inr ⟨[], found, after, hrest.symm, by rw [Text.lastFrom_append]; exact hr⟩
      · have hnone := hshut.quiet (Text.lastFrom prev first) gap left (second ++ rest) rfl hleft
        refine absurd hr (width?_eq_none_iff_reads.mp hnone found (after ++ rest) ?_)
        rw [← List.append_assoc, ← hrest, List.append_assoc]
  · -- The match begins before the piece.
    by_cases hne : gap = []
    · subst hne
      have hnone := hshut.quiet (Text.lastFrom prev (before ++ [])) [] text (second ++ rest) rfl
        hshut.nonempty
      rw [List.append_nil] at hnone
      refine absurd hr (width?_eq_none_iff_reads.mp hnone found (after ++ rest) ?_)
      rw [← List.append_assoc, ← List.append_assoc, hgap]
      rfl
    · rcases List.append_eq_append_iff.mp hgap with ⟨inside, rfl, hinside⟩ | ⟨inside, rfl, hinside⟩
      · refine .inl ⟨before, found, inside, rfl, ?_⟩
        rw [hinside] at hr
        simpa using hr
      · have hclosed : inside ++ (after ++ rest) = text ++ (second ++ rest) := by
          rw [← List.append_assoc, ← hinside, List.append_assoc]
        obtain rfl := hshut.stops hne hr hclosed
        refine .inl ⟨before, gap, [], by simp, ?_⟩
        rw [List.append_nil] at hr
        rw [List.nil_append, ← hclosed]
        exact hr

end Pattern

/-- Two texts that begin alike and end alike, inside a word or not. -/
def Text.sameEdges (old new : Text) : Bool :=
  !old.isEmpty && !new.isEmpty && wordy old.head? == wordy new.head?
    && wordy old.getLast? == wordy new.getLast?

/-- Two texts that could go on so that one begins with the other. -/
def Text.agree : Text → Text → Bool
  | [], _ => true
  | _, [] => true
  | c :: first, d :: second => c == d && agree first second

def Text.clears (fixed : Text) : Text → Bool
  | [] => true
  | c :: rest => !agree fixed (c :: rest) && fixed.clears rest

namespace Text

theorem agree_of_prefix {fixed text tail : Text} (h : fixed <+: text ++ tail) :
    fixed.agree text = true := by
  induction fixed generalizing text with
  | nil => rfl
  | cons c fixed ih =>
    cases text with
    | nil => rfl
    | cons d text =>
      rw [List.cons_append, List.cons_prefix_cons] at h
      simp [agree, h.1, ih h.2]

theorem not_prefix_of_clears {fixed left right tail : Text}
    (h : fixed.clears (left ++ right) = true) (hne : right ≠ []) : ¬ fixed <+: right ++ tail := by
  induction left with
  | nil =>
    obtain ⟨c, rest, rfl⟩ := List.exists_cons_of_ne_nil hne
    intro hp
    rw [List.nil_append, clears, agree_of_prefix hp] at h
    cases h
  | cons c left ih =>
    rw [List.cons_append, clears, Bool.and_eq_true] at h
    exact ih h.2

theorem prefix_or_prefix_of_agree {first second : Text} (h : first.agree second = true) :
    first <+: second ∨ second <+: first := by
  induction first generalizing second with
  | nil => exact .inl List.nil_prefix
  | cons c first ih =>
    cases second with
    | nil => exact .inr List.nil_prefix
    | cons d second =>
      rw [agree, Bool.and_eq_true, beq_iff_eq] at h
      obtain ⟨rfl, hrest⟩ := h
      simpa only [List.cons_prefix_cons, true_and] using ih hrest

theorem agree_comm (first second : Text) : first.agree second = second.agree first := by
  induction first generalizing second with
  | nil => cases second <;> rfl
  | cons c first ih =>
    cases second with
    | nil => rfl
    | cons d second =>
      rw [agree, agree, ih, Bool.beq_comm]

theorem agree_of_append_eq {first second tail tail' : Text} (h : first ++ tail = second ++ tail') :
    first.agree second = true := by
  rcases List.append_eq_append_iff.mp h with ⟨more, rfl, -⟩ | ⟨more, rfl, -⟩
  · refine agree_of_prefix (List.IsPrefix.trans ?_ (List.prefix_append (first ++ more) []))
    exact List.prefix_append first more
  · rw [agree_comm]
    refine agree_of_prefix (List.IsPrefix.trans ?_ (List.prefix_append (second ++ more) []))
    exact List.prefix_append second more

theorem agree_eq_false_of_clears {fixed left right : Text}
    (h : fixed.clears (left ++ right) = true) (hne : right ≠ []) : fixed.agree right = false := by
  induction left with
  | nil =>
    obtain ⟨c, rest, rfl⟩ := List.exists_cons_of_ne_nil hne
    rw [List.nil_append, clears, Bool.and_eq_true, Bool.not_eq_true'] at h
    exact h.1
  | cons c left ih =>
    rw [List.cons_append, clears, Bool.and_eq_true] at h
    exact ih h.2

theorem agree_of_agree_append {fixed text more : Text} (h : fixed.agree (text ++ more) = true) :
    fixed.agree text = true := by
  induction fixed generalizing text with
  | nil => rfl
  | cons c fixed ih =>
    cases text with
    | nil => rfl
    | cons d text =>
      rw [List.cons_append, agree, Bool.and_eq_true] at h
      rw [agree, h.1, ih h.2]
      rfl

theorem clears_append {fixed first second : Text} (h₁ : fixed.clears first = true)
    (h₂ : fixed.clears second = true) : fixed.clears (first ++ second) = true := by
  induction first with
  | nil => exact h₂
  | cons c first ih =>
    rw [clears, Bool.and_eq_true, Bool.not_eq_true'] at h₁
    rw [List.cons_append, clears, ih h₁.2, Bool.and_true, Bool.not_eq_true', Bool.eq_false_iff]
    intro hagree
    rw [← List.cons_append] at hagree
    rw [agree_of_agree_append hagree] at h₁
    cases h₁.1

/-- A text that lacks a character of the fixed text, and ends with one that may only be the last of the
fixed text, holds neither all of it nor its beginning at the end. -/
theorem clears_of_notin {c : Char} {fixed text : Text} (hc : c ∈ fixed) (htext : c ∉ text)
    (hlast : ∀ d ∈ text.getLast?, d ∉ fixed.dropLast) : fixed.clears text = true := by
  induction text with
  | nil => rfl
  | cons d text ih =>
    have hrest : ∀ e ∈ text.getLast?, e ∉ fixed.dropLast := by
      intro e he
      refine hlast e ?_
      rw [List.getLast?_cons, Option.mem_def.mp he]
      rfl
    rw [clears, ih (fun hmem => htext (List.mem_cons_of_mem _ hmem)) hrest, Bool.and_true,
      Bool.not_eq_true', Bool.eq_false_iff]
    intro hagree
    rcases prefix_or_prefix_of_agree hagree with hfixed | ⟨more, rfl⟩
    · exact htext (hfixed.subset hc)
    · rcases List.eq_nil_or_concat more with rfl | ⟨more, f, rfl⟩
      · rw [List.append_nil] at hc
        exact htext hc
      · obtain ⟨e, he⟩ := Option.isSome_iff_exists.mp
          (List.getLast?_isSome.mpr (List.cons_ne_nil d text))
        refine hlast e he ?_
        rw [List.concat_eq_append, ← List.append_assoc, List.dropLast_concat]
        exact List.mem_append_left _ (List.mem_of_getLast? he)

theorem clears_of_head_notin {c : Char} {fixed text : Text} (h : c ∉ text) :
    Text.clears (c :: fixed) text = true := by
  induction text with
  | nil => rfl
  | cons d text ih =>
    obtain ⟨hne, htext⟩ := not_or.mp (mt List.mem_cons.mpr h)
    have hbeq : (c == d) = false := by simpa using hne
    rw [clears, agree, hbeq, ih htext]
    rfl

end Text

namespace Pattern

/-- A piece of text that no match contains, not even the beginning of it at its end, stops all matches
that begin before it. -/
theorem stops_of_clears {pattern : Pattern} {text : Text}
    (h : ∀ {prev found rest}, pattern.Reads prev found rest → text.clears found.tail = true) :
    pattern.Stops text := by
  intro prev left inside rest tail hne hr heq
  refine Decidable.byContradiction fun hinside => ?_
  obtain ⟨c, left, rfl⟩ := List.exists_cons_of_ne_nil hne
  have hclears : text.clears (left ++ inside) = true := h hr
  have hagree := Text.agree_of_append_eq heq
  rw [Text.agree_comm, Text.agree_eq_false_of_clears hclears hinside] at hagree
  cases hagree

theorem Begins.quiet {pattern : Pattern} {fixed text : Text} (hb : pattern.Begins fixed)
    (hc : fixed.clears text = true) (prev : Option Char) : pattern.Quiet prev text := by
  rintro left right tail rfl hne
  exact hb.width?_eq_none (Text.not_prefix_of_clears hc hne)

theorem alike_lookless (prev prev' : Option Char) (rest rest' : Text) :
    Alike (fun _ => false) prev rest prev' rest' := by
  intro condition h
  cases h

theorem alike_edged {prev prev' : Option Char} {rest rest' : Text}
    (hprev : Text.wordy prev = Text.wordy prev')
    (hrest : Text.wordy rest.head? = Text.wordy rest'.head?) :
    Alike (fun condition => condition = .wordEdge .unicode) prev rest prev' rest' := by
  have hseen (seen : Text) :
      Text.wordy (Text.lastFrom prev seen) = Text.wordy (Text.lastFrom prev' seen) := by
    cases seen with
    | nil => exact hprev
    | cons c seen => rfl
  have hmore (more : Text) :
      Text.wordy (more ++ rest).head? = Text.wordy (more ++ rest').head? := by
    cases more with
    | nil => exact hrest
    | cons c more => rfl
  intro condition hcondition seen more
  obtain rfl := of_decide_eq_true hcondition
  change (Text.wordy _ != Text.wordy _) = (Text.wordy _ != Text.wordy _)
  rw [hseen seen, hmore more]

theorem alike_lined {prev prev' : Option Char}
    (h : LineBreak.lf.beginsLine prev none = LineBreak.lf.beginsLine prev' none)
    (rest rest' : Text) :
    Alike (fun condition => condition = .lineStart .lf) prev rest prev' rest' := by
  have hsame (prev : Option Char) (next : Option Char) :
      LineBreak.lf.beginsLine prev next = LineBreak.lf.beginsLine prev none := by
    cases prev <;> rfl
  intro condition hcondition seen more
  obtain rfl := of_decide_eq_true hcondition
  change LineBreak.lf.beginsLine _ _ = LineBreak.lf.beginsLine _ _
  rw [hsame _ (more ++ rest).head?, hsame _ (more ++ rest').head?]
  cases seen with
  | nil => exact h
  | cons c seen => rfl

structure Blind (pattern : Pattern) (old new : Text) : Prop where
  before : ∀ {prev : Option Char} {first rest : Text} (rest' : Text),
    pattern.Within prev first (new ++ rest) → pattern.Within prev first (old ++ rest')
  behind : ∀ {prev : Option Char} {second rest : Text},
    pattern.Within (Text.lastFrom prev new) second rest →
      pattern.Within (Text.lastFrom prev old) second rest

section

variable {pattern : Pattern} {old new : Text} (hs : pattern.settled = true)

include hs

theorem blind_of_lookless (hl : pattern.lookless = true) : pattern.Blind old new where
  before _ h := h.alike hs hl (alike_lookless _ _ _ _)
  behind h := h.alike hs hl (alike_lookless _ _ _ _)

theorem blind_of_edged (he : pattern.edged = true) (hedges : old.sameEdges new = true) :
    pattern.Blind old new := by
  simp only [Text.sameEdges, Bool.and_eq_true, Bool.not_eq_true', List.isEmpty_eq_false_iff,
    beq_iff_eq] at hedges
  obtain ⟨⟨⟨hold, hnew⟩, hhead⟩, hlast⟩ := hedges
  constructor
  · intro prev first rest rest' h
    refine h.alike hs he (alike_edged rfl ?_)
    rw [Text.head?_append_of_ne_nil hold, Text.head?_append_of_ne_nil hnew, hhead]
  · intro prev second rest h
    refine h.alike hs he (alike_edged ?_ rfl)
    rw [Text.lastFrom_eq_getLast? hold, Text.lastFrom_eq_getLast? hnew, hlast]

theorem blind_of_lined (hl : pattern.lined = true)
    (hlast : ∀ prev, Text.lastFrom prev new = Text.lastFrom prev old) : pattern.Blind old new where
  before _ h := h.alike hs hl (alike_lined rfl _ _)
  behind h := by
    rw [hlast] at h
    exact h

end

theorem Shut.occurs_of_patch {pattern : Pattern} {prev : Option Char} {old new first second : Text}
    (hnew : pattern.Shut new) (hblind : pattern.Blind old new)
    (h : pattern.occurs prev (first ++ (new ++ second)) = true) :
    pattern.occurs prev (first ++ (old ++ second)) = true := by
  rw [occurs_iff_within] at h ⊢
  rcases hnew.within h with h | h
  · have hleft := hblind.before (second ++ []) h
    rw [← List.append_assoc] at hleft
    exact hleft.append_left
  · rw [Text.lastFrom_append] at h
    have hright := hblind.behind h
    rw [← Text.lastFrom_append] at hright
    rw [← List.append_assoc]
    exact hright.append_right

end Pattern

inductive Patched (allowed : Text → Text → Prop) : Text → Text → Prop where
  | refl (text : Text) : Patched allowed text text
  | step {text first old new second : Text} :
    Patched allowed text (first ++ (old ++ second)) → allowed old new →
      Patched allowed text (first ++ (new ++ second))

namespace Patched

variable {allowed : Text → Text → Prop} {text middle out : Text}

theorem single {old new : Text} (h : allowed old new) : Patched allowed old new := by
  have hstart : Patched allowed old ([] ++ (old ++ [])) := by
    rw [List.nil_append, List.append_nil]
    exact .refl old
  simpa using hstart.step h

theorem trans (h₁ : Patched allowed text middle) (h₂ : Patched allowed middle out) :
    Patched allowed text out := by
  induction h₂ with
  | refl => exact h₁
  | step _ ha ih => exact ih.step ha

theorem behind (front : Text) (h : Patched allowed text out) :
    Patched allowed (front ++ text) (front ++ out) := by
  induction h with
  | refl => exact .refl _
  | step _ ha ih =>
    rw [← List.append_assoc] at ih ⊢
    exact ih.step ha

theorem before (back : Text) (h : Patched allowed text out) :
    Patched allowed (text ++ back) (out ++ back) := by
  induction h with
  | refl => exact .refl _
  | step _ ha ih =>
    rw [List.append_assoc, List.append_assoc] at ih ⊢
    exact ih.step ha

theorem keeps (P : Text → Prop) (h : Patched allowed text out)
    (hstep : ∀ {first old new second}, allowed old new → P (first ++ (old ++ second)) →
      P (first ++ (new ++ second))) (ht : P text) : P out := by
  induction h with
  | refl => exact ht
  | step _ ha ih => exact hstep ha ih

theorem not_occurs {pattern : Pattern} {prev : Option Char} (h : Patched allowed text out)
    (hallowed : ∀ {old new}, allowed old new → pattern.Shut new ∧ pattern.Blind old new)
    (hno : pattern.occurs prev text = false) : pattern.occurs prev out = false := by
  refine h.keeps (fun out => pattern.occurs prev out = false) (fun ha hold => ?_) hno
  obtain ⟨hshut, hblind⟩ := hallowed ha
  refine Bool.eq_false_iff.mpr fun hyes => Bool.eq_false_iff.mp hold ?_
  exact hshut.occurs_of_patch hblind hyes

end Patched

namespace Pattern

variable {pattern : Pattern} {new : Text → Text}

theorem rewriteFrom_of_not_occurs {text : Text} : ∀ {prev : Option Char},
    pattern.occurs prev text = false → pattern.rewriteFrom new 0 prev text = text := by
  induction text with
  | nil => exact fun _ => rfl
  | cons c rest ih =>
    intro prev h
    rw [occurs, Bool.or_eq_false_iff, Option.isSome_eq_false_iff, Option.isNone_iff_eq_none] at h
    rw [rewriteFrom, h.1]
    exact congrArg (c :: ·) (ih h.2)

theorem First.not_within (hc : pattern.consumes = true) {prev : Option Char}
    {text before found after : Text} (h : pattern.First prev text before found after) :
    ¬ pattern.Within prev before (found ++ after) := by
  rintro ⟨left, inner, right, rfl, hr⟩
  have hne : inner ++ right ≠ [] := by
    intro hnil
    exact hr.ne_nil hc (List.append_eq_nil_iff.mp hnil).1
  have hnone := h.earlier left (inner ++ right) rfl hne
  rw [List.append_assoc] at hnone
  exact width?_eq_none_iff_reads.mp hnone inner _ rfl hr

theorem rewriteFrom_skip {before rest : Text} : ∀ {prev : Option Char},
    (∀ left right, before = left ++ right → right ≠ [] →
      pattern.width? (Text.lastFrom prev left) (right ++ rest) = none) →
    pattern.rewriteFrom new 0 prev (before ++ rest) =
      before ++ pattern.rewriteFrom new 0 (Text.lastFrom prev before) rest := by
  induction before with
  | nil => exact fun _ => rfl
  | cons c before ih =>
    intro prev h
    have hfirst := h [] (c :: before) rfl (by simp)
    rw [Text.lastFrom, List.cons_append] at hfirst
    rw [List.cons_append, Pattern.rewriteFrom, hfirst]
    exact congrArg (c :: ·) (ih fun left right heq hne =>
      h (c :: left) right (by rw [heq]; rfl) hne)

theorem First.rewriteFrom {prev : Option Char} {text before found after : Text}
    (h : pattern.First prev text before found after) (hne : found ≠ []) :
    pattern.rewriteFrom new 0 prev text =
      before ++ (new found
        ++ pattern.rewriteFrom new 0 (Text.lastFrom prev (before ++ found)) after) := by
  obtain ⟨rfl, hwidth, hearlier⟩ := h
  rw [rewriteFrom_skip hearlier, rewriteFrom_of_width? hne hwidth, Text.lastFrom_append]

end Pattern

inductive Swept (pattern : Pattern) (allowed : Text → Text → Prop) :
    Option Char → Text → Text → Prop where
  | rest {prev : Option Char} {text : Text} (h : pattern.occurs prev text = false) :
    Swept pattern allowed prev text text
  | step {prev : Option Char} {text before found after fresh out : Text}
    (h : pattern.First prev text before found after) (fits : allowed found fresh)
    (more : Swept pattern allowed (Text.lastFrom prev (before ++ found)) after out) :
    Swept pattern allowed prev text (before ++ (fresh ++ out))

namespace Swept

variable {pattern : Pattern} {allowed : Text → Text → Prop} {prev : Option Char} {text out : Text}

/-- After a sweep by pieces that are shut for a pattern whose matches are all matches of the swept one,
no match of it is left. -/
theorem not_occurs_of_reads {narrow : Pattern} (h : Swept pattern allowed prev text out)
    (hc : pattern.consumes = true)
    (hreads : ∀ {prev found rest}, narrow.Reads prev found rest → pattern.Reads prev found rest)
    (hfresh : ∀ {found fresh}, allowed found fresh →
      narrow.Shut fresh ∧ narrow.Blind found fresh) :
    narrow.occurs prev out = false := by
  induction h with
  | rest h =>
    refine Bool.eq_false_iff.mpr fun hyes => Bool.eq_false_iff.mp h ?_
    obtain ⟨before, found, after, heq, hr⟩ := (Pattern.occurs_iff _ _ _).mp hyes
    exact (Pattern.occurs_iff _ _ _).mpr ⟨before, found, after, heq, hreads hr⟩
  | step hfirst fits _ ih =>
    obtain ⟨hshut, hblind⟩ := hfresh fits
    refine Bool.eq_false_iff.mpr fun hagain => ?_
    rw [Pattern.occurs_iff_within] at hagain
    rcases hshut.within hagain with hleft | hright
    · obtain ⟨left, found, right, heq, hr⟩ := hblind.before _ hleft
      exact hfirst.not_within hc ⟨left, found, right, heq, hreads hr⟩
    · rw [Text.lastFrom_append] at hright
      have hright := hblind.behind hright
      rw [← Text.lastFrom_append, ← Pattern.occurs_iff_within, ih] at hright
      cases hright

theorem not_occurs (h : Swept pattern allowed prev text out) (hc : pattern.consumes = true)
    (hfresh : ∀ {found fresh}, allowed found fresh →
      pattern.Shut fresh ∧ pattern.Blind found fresh) :
    pattern.occurs prev out = false :=
  h.not_occurs_of_reads hc (fun hr => hr) hfresh

theorem patched {patches : Text → Text → Prop} (h : Swept pattern allowed prev text out)
    (hfresh : ∀ {found fresh}, allowed found fresh → Patched patches found fresh) :
    Patched patches text out := by
  induction h with
  | rest => exact .refl _
  | step hfirst fits _ ih =>
    rw [hfirst.split]
    exact Patched.behind _ ((ih.behind _).trans ((hfresh fits).before _))

theorem eq_or_fresh (h : Swept pattern allowed prev text out) :
    (pattern.occurs prev text = false ∧ out = text) ∨
      ∃ found fresh front back, allowed found fresh ∧ out = front ++ (fresh ++ back) := by
  cases h with
  | rest h => exact .inl ⟨h, rfl⟩
  | step _ fits _ => exact .inr ⟨_, _, _, _, fits, rfl⟩

end Swept

namespace Pattern

/-- What holds of texts without a match, and of a text if it holds of what follows its first match, holds
of every text. -/
@[elab_as_elim]
theorem first_induction {pattern : Pattern} (hc : pattern.consumes = true)
    {motive : Option Char → Text → Prop}
    (quiet : ∀ prev text, pattern.occurs prev text = false → motive prev text)
    (first : ∀ prev text before found after, pattern.First prev text before found after → found ≠ [] →
      motive (Text.lastFrom prev (before ++ found)) after → motive prev text)
    (prev : Option Char) (text : Text) : motive prev text := by
  induction hn : text.length using Nat.strongRecOn generalizing prev text with
  | ind n ih =>
    by_cases ho : pattern.occurs prev text = true
    · obtain ⟨before, found, after, hfirst⟩ := exists_first text ho
      have hne := hfirst.reads.ne_nil hc
      have hlength : after.length < n := by
        have := List.length_pos_iff.mpr hne
        rw [← hn, hfirst.split]
        simp only [List.length_append]
        omega
      exact first prev text before found after hfirst hne (ih _ hlength _ after rfl)
    · exact quiet prev text (Bool.eq_false_iff.mpr ho)

theorem reads_of_hit {pattern : Pattern} {pos : Nat} {prev : Option Char} {found after : Text}
    {hit : Match} (hhit : pattern.matchAt? ⟨pos, prev, found ++ after⟩ = some hit)
    (hspan : hit.span = ⟨pos, pos + found.length⟩) : pattern.Reads prev found after := by
  obtain ⟨n, hn, heq⟩ := width?_of_matchAt? hhit
  have hstop : pos + found.length = pos + n := (Span.mk.inj (hspan.symm.trans heq)).2
  obtain rfl : found.length = n := by omega
  simpa using reads_of_width? hn

theorem swept_hits {pattern : Pattern} (hc : pattern.consumes = true) {render : Match → Text}
    {allowed : Text → Text → Prop} {whole : Text}
    (hrender : ∀ {front found after hit}, whole = front ++ (found ++ after) →
      pattern.matchAt? ⟨front.length, Text.lastFrom none front, found ++ after⟩ = some hit →
        hit.span = ⟨front.length, front.length + found.length⟩ → allowed found (render hit))
    {front text : Text} (hwhole : whole = front ++ text) :
    Swept pattern allowed (Text.lastFrom none front) text
      (spliceFrom front.length text
        ((pattern.hitsFrom 0 front.length (Text.lastFrom none front) text).map
          fun hit => (hit.span, render hit))) := by
  generalize hprev : Text.lastFrom none front = prev
  induction prev, text using first_induction hc generalizing front with
  | quiet prev text hno =>
    rw [hitsFrom_eq_nil hno]
    exact .rest hno
  | first prev text before found after hfirst hne ih =>
    subst hprev
    obtain ⟨hit, hhits, hhit, hspan⟩ := hfirst.hitsFrom hne front.length
    have hfront : whole = (front ++ before) ++ (found ++ after) := by
      rw [hwhole, hfirst.split, List.append_assoc]
    have hrest : whole = (front ++ (before ++ found)) ++ after := by
      rw [hfront]
      simp only [List.append_assoc]
    have hpos : front.length + before.length + found.length =
        (front ++ (before ++ found)).length := by
      simp only [List.length_append]
      omega
    have hmore := ih hrest (Text.lastFrom_append none front (before ++ found))
    rw [← hpos] at hmore
    have hhere : allowed found (render hit) := by
      rw [← List.length_append, ← Text.lastFrom_append] at hhit
      rw [← List.length_append] at hspan
      exact hrender hfront hhit hspan
    rw [hhits, List.map_cons, spliceFrom, hspan]
    have hstart : front.length + before.length - front.length = before.length := by omega
    have hstop : front.length + before.length + found.length - front.length =
        (before ++ found).length := by
      rw [List.length_append]
      omega
    have htake : text.take before.length = before := by
      rw [hfirst.split, List.take_left]
    have hdrop : text.drop (before ++ found).length = after := by
      rw [hfirst.split, ← List.append_assoc, List.drop_left]
    simp only [hstart, hstop, htake, hdrop, List.append_assoc]
    exact .step hfirst hhere hmore

end Pattern

end Recast
