import Recast.Proofs.Pattern.Reads

/-! Where a pattern occurs in a text. The first match cuts the text into what stands before it, the
match and the rest, and a rewriting cuts it so again and again. A stretch of text is quiet for a
pattern if no match begins in it, whatever follows; quiet stretches are passed over. -/

namespace Recast.Pattern

def occurs (pattern : Pattern) : Option Char → Text → Bool
  | prev, [] => (pattern.width? prev []).isSome
  | prev, c :: rest => (pattern.width? prev (c :: rest)).isSome || pattern.occurs (some c) rest

structure First (pattern : Pattern) (prev : Option Char) (text before found after : Text) :
    Prop where
  split : text = before ++ (found ++ after)
  width : pattern.width? (Text.lastFrom prev before) (found ++ after) = some found.length
  earlier : ∀ left right, before = left ++ right → right ≠ [] →
    pattern.width? (Text.lastFrom prev left) (right ++ (found ++ after)) = none

/-- No match begins in a stretch of text behind `prev`, whatever follows it. -/
def Quiet (pattern : Pattern) (prev : Option Char) (text : Text) : Prop :=
  ∀ left right tail, text = left ++ right → right ≠ [] →
    pattern.width? (Text.lastFrom prev left) (right ++ tail) = none

/-- A rewriting turns a stretch of text behind `prev` into another, whatever follows it. -/
def Passes (pattern : Pattern) (new : Text → Text) (prev : Option Char) (text out : Text) : Prop :=
  ∀ tail, pattern.rewriteFrom new 0 prev (text ++ tail) =
    out ++ pattern.rewriteFrom new 0 (Text.lastFrom prev text) tail

variable {pattern : Pattern} {new : Text → Text} {prev : Option Char}
  {text before found after out first second : Text}

theorem isSome_leftmost? (pattern : Pattern) (text : Text) : ∀ (pos : Nat) (prev : Option Char),
    (pattern.leftmost? pos prev text).isSome = pattern.occurs prev text := by
  have same (pos : Nat) (prev : Option Char) (text : Text) :
      (pattern.matchAt? ⟨pos, prev, text⟩).isSome = (pattern.width? prev text).isSome := by
    have := congrArg Option.isSome (matchAt?_span pattern pos prev text)
    simpa using this
  induction text with
  | nil =>
    intro pos prev
    exact same pos prev []
  | cons c rest ih =>
    intro pos prev
    rw [leftmost?, occurs, Option.isSome_or, ih, same]

theorem hitsFrom_eq_nil {text : Text} :
    ∀ {pos : Nat} {prev : Option Char}, pattern.occurs prev text = false →
      pattern.hitsFrom 0 pos prev text = [] := by
  induction text with
  | nil => exact fun _ => rfl
  | cons c rest ih =>
    intro pos prev h
    rw [occurs, Bool.or_eq_false_iff, Option.isSome_eq_false_iff, Option.isNone_iff_eq_none] at h
    rw [hitsFrom, (width?_eq_none_iff pos prev (c :: rest)).mp h.1]
    exact ih h.2

theorem occurs_iff (pattern : Pattern) (text : Text) : ∀ prev : Option Char,
    pattern.occurs prev text = true ↔
      ∃ before found after, text = before ++ (found ++ after) ∧
        pattern.Reads (Text.lastFrom prev before) found after := by
  induction text with
  | nil =>
    intro prev
    rw [occurs, width?_isSome_iff]
    constructor
    · rintro ⟨found, after, heq, hreads⟩
      exact ⟨[], found, after, heq, hreads⟩
    · rintro ⟨before, found, after, heq, hreads⟩
      obtain rfl : before = [] := (List.append_eq_nil_iff.mp heq.symm).1
      exact ⟨found, after, heq, hreads⟩
  | cons c rest ih =>
    intro prev
    rw [occurs, Bool.or_eq_true, width?_isSome_iff, ih]
    constructor
    · rintro (⟨found, after, heq, hreads⟩ | ⟨before, found, after, rfl, hreads⟩)
      · exact ⟨[], found, after, heq, hreads⟩
      · exact ⟨c :: before, found, after, rfl, hreads⟩
    · rintro ⟨before, found, after, heq, hreads⟩
      cases before with
      | nil => exact .inl ⟨found, after, heq, hreads⟩
      | cons d before =>
        obtain ⟨rfl, rfl⟩ := List.cons.inj heq
        exact .inr ⟨before, found, after, rfl, hreads⟩

theorem exists_first (text : Text) : ∀ {prev : Option Char}, pattern.occurs prev text = true →
    ∃ before found after, pattern.First prev text before found after := by
  have here {prev : Option Char} {text : Text} (h : (pattern.width? prev text).isSome = true) :
      ∃ before found after, pattern.First prev text before found after := by
    obtain ⟨n, hn⟩ := Option.isSome_iff_exists.mp h
    refine ⟨[], text.take n, text.drop n, ?_, ?_, ?_⟩
    · simp
    · rw [List.take_append_drop, List.length_take, Nat.min_eq_left (width?_le hn)]
      exact hn
    · intro left right heq hne
      exact absurd (List.append_eq_nil_iff.mp heq.symm).2 hne
  induction text with
  | nil =>
    intro prev h
    exact here h
  | cons c rest ih =>
    intro prev h
    by_cases hw : (pattern.width? prev (c :: rest)).isSome = true
    · exact here hw
    · rw [occurs, Bool.or_eq_true] at h
      obtain ⟨before, found, after, hsplit, hwidth, hearlier⟩ := ih (h.resolve_left hw)
      refine ⟨c :: before, found, after, by rw [hsplit]; rfl, hwidth, ?_⟩
      intro left right heq hne
      cases left with
      | nil =>
        obtain rfl : c :: before = right := heq
        rw [List.cons_append, ← hsplit]
        exact Option.not_isSome_iff_eq_none.mp hw
      | cons d left =>
        obtain ⟨rfl, rfl⟩ := List.cons.inj heq
        exact hearlier left right rfl hne

theorem First.reads (h : pattern.First prev text before found after) :
    pattern.Reads (Text.lastFrom prev before) found after := by
  simpa using reads_of_width? h.width

theorem First.leftmost? (h : pattern.First prev text before found after) (pos : Nat) :
    (pattern.leftmost? pos prev text).map (·.span) =
      some ⟨pos + before.length, pos + before.length + found.length⟩ := by
  obtain ⟨rfl, hwidth, hearlier⟩ := h
  have hit (pos : Nat) (prev : Option Char)
      (hw : pattern.width? prev (found ++ after) = some found.length) :
      (pattern.leftmost? pos prev (found ++ after)).map (·.span) =
        some ⟨pos, pos + found.length⟩ := by
    have hspan := matchAt?_span pattern pos prev (found ++ after)
    rw [hw, Option.map_some] at hspan
    obtain ⟨m, hm, hms⟩ := Option.map_eq_some_iff.mp hspan
    cases hfa : found ++ after with
    | nil => rw [Pattern.leftmost?, ← hfa, hm, Option.map_some, hms]
    | cons c rest => rw [Pattern.leftmost?, ← hfa, hm, Option.some_or, Option.map_some, hms]
  induction before generalizing pos prev with
  | nil => simpa using hit pos prev hwidth
  | cons c before ih =>
    have hfirst := (width?_eq_none_iff pos _ _).mp (hearlier [] (c :: before) rfl (by simp))
    simp only [Text.lastFrom, List.cons_append] at hfirst
    rw [List.cons_append, Pattern.leftmost?, hfirst, Option.none_or,
      @ih (some c) (pos + 1) hwidth
        fun left right heq hne => hearlier (c :: left) right (by rw [heq]; rfl) hne]
    simp only [List.length_cons, Option.some.injEq, Span.mk.injEq]
    omega

theorem hitsFrom_skip (skipped rest : Text) : ∀ (pos : Nat) (prev : Option Char),
    pattern.hitsFrom skipped.length pos prev (skipped ++ rest) =
      pattern.hitsFrom 0 (pos + skipped.length) (Text.lastFrom prev skipped) rest := by
  induction skipped with
  | nil => exact fun _ _ => rfl
  | cons c skipped ih =>
    intro pos prev
    have hpos : pos + (c :: skipped).length = pos + 1 + skipped.length := by
      rw [List.length_cons]
      omega
    rw [hpos]
    exact ih (pos + 1) (some c)

theorem First.hitsFrom (h : pattern.First prev text before found after) (hne : found ≠ [])
    (pos : Nat) : ∃ hit, pattern.hitsFrom 0 pos prev text =
        hit :: pattern.hitsFrom 0 (pos + before.length + found.length)
          (Text.lastFrom prev (before ++ found)) after ∧
      pattern.matchAt? ⟨pos + before.length, Text.lastFrom prev before, found ++ after⟩ = some hit ∧
        hit.span = ⟨pos + before.length, pos + before.length + found.length⟩ := by
  obtain ⟨rfl, hwidth, hearlier⟩ := h
  induction before generalizing pos prev with
  | nil =>
    obtain ⟨c, covered, rfl⟩ := List.exists_cons_of_ne_nil hne
    have hspan := matchAt?_span pattern pos prev (c :: covered ++ after)
    rw [Text.lastFrom] at hwidth
    rw [hwidth, Option.map_some] at hspan
    obtain ⟨hit, hhit, heq⟩ := Option.map_eq_some_iff.mp hspan
    refine ⟨hit, ?_, hhit, heq⟩
    have hskip : hit.span.stop - pos - 1 = covered.length := by
      rw [heq, List.length_cons]
      simp only
      omega
    have hpos : pos + 1 + covered.length = pos + (c :: covered).length := by
      rw [List.length_cons]
      omega
    rw [List.nil_append, List.cons_append, Pattern.hitsFrom, ← List.cons_append, hhit]
    simp only [hskip, hitsFrom_skip, hpos]
    rfl
  | cons c before ih =>
    have hfirst := (width?_eq_none_iff pos _ _).mp (hearlier [] (c :: before) rfl (by simp))
    simp only [Text.lastFrom, List.cons_append] at hfirst
    obtain ⟨hit, hmore, hhit, heq⟩ := @ih (some c) (pos + 1) hwidth
      fun left right heq hne => hearlier (c :: left) right (by rw [heq]; rfl) hne
    have hpos : pos + 1 + before.length = pos + (c :: before).length := by
      rw [List.length_cons]
      omega
    rw [hpos] at hhit heq hmore
    refine ⟨hit, ?_, hhit, heq⟩
    rw [List.cons_append, Pattern.hitsFrom, hfirst]
    exact hmore

namespace Quiet

theorem nil : pattern.Quiet prev [] := by
  intro left right tail heq hne
  exact absurd (List.append_eq_nil_iff.mp heq.symm).2 hne

theorem append (h₁ : pattern.Quiet prev first)
    (h₂ : pattern.Quiet (Text.lastFrom prev first) second) :
    pattern.Quiet prev (first ++ second) := by
  intro left right tail heq hne
  rcases List.append_eq_append_iff.mp heq with ⟨gap, rfl, rfl⟩ | ⟨gap, rfl, rfl⟩
  · rw [Text.lastFrom_append]
    exact h₂ gap right tail rfl hne
  · cases gap with
    | nil =>
      rw [List.append_nil] at h₂
      exact h₂ [] second tail rfl hne
    | cons c gap =>
      rw [List.append_assoc]
      exact h₁ left (c :: gap) (second ++ tail) rfl (by simp)

theorem tail {c : Char} {rest : Text} (h : pattern.Quiet prev (c :: rest)) :
    pattern.Quiet (some c) rest := by
  intro left right tail heq hne
  exact h (c :: left) right tail (by rw [heq]; rfl) hne

theorem width?_eq_none {c : Char} {rest : Text} (h : pattern.Quiet prev (c :: rest))
    (tail : Text) : pattern.width? prev (c :: (rest ++ tail)) = none :=
  h [] (c :: rest) tail rfl (by simp)

theorem passes (h : pattern.Quiet prev text) : pattern.Passes new prev text text := by
  intro tail
  induction text generalizing prev with
  | nil => rfl
  | cons c rest ih =>
    rw [List.cons_append, rewriteFrom, h.width?_eq_none tail]
    exact congrArg (c :: ·) (ih h.tail)

theorem occurs_append (h : pattern.Quiet prev text) (tail : Text) :
    pattern.occurs prev (text ++ tail) = pattern.occurs (Text.lastFrom prev text) tail := by
  induction text generalizing prev with
  | nil => rfl
  | cons c rest ih =>
    rw [List.cons_append, Pattern.occurs, h.width?_eq_none tail, Option.isSome_none, Bool.false_or]
    exact ih h.tail

theorem first_append {tail : Text} (h : pattern.Quiet prev text)
    (hf : pattern.First (Text.lastFrom prev text) tail before found after) :
    pattern.First prev (text ++ tail) (text ++ before) found after := by
  obtain ⟨rfl, hwidth, hearlier⟩ := hf
  refine ⟨by simp, by rwa [Text.lastFrom_append], ?_⟩
  intro left right heq hne
  rcases List.append_eq_append_iff.mp heq with ⟨gap, rfl, rfl⟩ | ⟨gap, rfl, rfl⟩
  · rw [Text.lastFrom_append]
    exact hearlier gap right rfl hne
  · cases gap with
    | nil =>
      rw [List.append_nil] at hearlier
      exact hearlier [] before rfl hne
    | cons c gap =>
      rw [List.append_assoc]
      exact h left (c :: gap) (before ++ (found ++ after)) rfl (by simp)

end Quiet

theorem rewriteFrom_of_width? {tail : Text} (hne : text ≠ [])
    (h : pattern.width? prev (text ++ tail) = some text.length) :
    pattern.rewriteFrom new 0 prev (text ++ tail) =
      new text ++ pattern.rewriteFrom new 0 (Text.lastFrom prev text) tail := by
  obtain ⟨c, rest, rfl⟩ := List.exists_cons_of_ne_nil hne
  have skip (rest : Text) : ∀ prev, pattern.rewriteFrom new rest.length prev (rest ++ tail) =
      pattern.rewriteFrom new 0 (Text.lastFrom prev rest) tail := by
    induction rest with
    | nil => exact fun _ => rfl
    | cons d rest ih => exact fun _ => ih (some d)
  rw [List.cons_append] at h ⊢
  rw [rewriteFrom, h]
  simp only [← List.cons_append, List.take_left]
  exact congrArg (new (c :: rest) ++ ·) (skip rest (some c))

namespace Passes

theorem append {out' : Text} (h₁ : pattern.Passes new prev first out)
    (h₂ : pattern.Passes new (Text.lastFrom prev first) second out') :
    pattern.Passes new prev (first ++ second) (out ++ out') := by
  intro tail
  rw [List.append_assoc, h₁, h₂, Text.lastFrom_append, List.append_assoc]

theorem rewrite (h : pattern.Passes new none text out) : pattern.rewrite new text = out := by
  have := h []
  simpa [Pattern.rewrite, rewriteFrom] using this

end Passes

end Recast.Pattern
