import Recast.Matcher

/-! Brackets in a text. Walking over a text counts the brackets that are open; the walk fails at a
bracket that closes none. A matcher for braced items ends an item where this count comes back to
zero, at any depth. -/

namespace Recast

namespace Text

variable (opening closing : Char)

/-- How many brackets are open at the end of a text at whose start `n` are open. There is no answer
where a bracket closes that none has opened. -/
def opened : Nat → Text → Option Nat
  | n, [] => some n
  | n, c :: rest =>
    if c = opening then opened (n + 1) rest
    else if c = closing then
      match n with
      | 0 => none
      | n + 1 => opened n rest
    else opened n rest

/-- The most brackets that are open at once in a text at whose start `n` are open. -/
def peak : Nat → Text → Nat
  | n, [] => n
  | n, c :: rest =>
    max n (peak (if c = opening then n + 1 else if c = closing then n - 1 else n) rest)

def Nested (depth : Nat) (text : Text) : Prop :=
  opened opening closing 0 text = some 0 ∧ peak opening closing 0 text ≤ depth

variable {opening closing} {first second text : Text} {c : Char} {n m : Nat}

@[simp]
theorem opened_nil : opened opening closing n [] = some n := rfl

@[simp]
theorem peak_nil : peak opening closing n [] = n := rfl

theorem le_peak : n ≤ peak opening closing n text := by
  cases text with
  | nil => exact Nat.le_refl n
  | cons c text => exact Nat.le_max_left _ _

@[simp]
theorem opened_opening :
    opened opening closing n (opening :: text) = opened opening closing (n + 1) text := by
  simp [opened]

@[simp]
theorem peak_opening :
    peak opening closing n (opening :: text) = peak opening closing (n + 1) text := by
  have hle : n + 1 ≤ peak opening closing (n + 1) text := le_peak
  rw [peak, if_pos rfl]
  omega

theorem opened_other (h : c ≠ opening ∧ c ≠ closing) :
    opened opening closing n (c :: text) = opened opening closing n text := by
  simp [opened, h]

theorem peak_other (h : c ≠ opening ∧ c ≠ closing) :
    peak opening closing n (c :: text) = peak opening closing n text := by
  rw [peak, if_neg h.1, if_neg h.2, Nat.max_eq_right le_peak]

theorem opened_plain (h : ∀ c ∈ first, c ≠ opening ∧ c ≠ closing) :
    opened opening closing n (first ++ second) = opened opening closing n second := by
  induction first with
  | nil => rfl
  | cons c first ih =>
    rw [List.cons_append, opened_other (h c List.mem_cons_self)]
    exact ih fun d hd => h d (List.mem_cons_of_mem _ hd)

theorem peak_plain (h : ∀ c ∈ first, c ≠ opening ∧ c ≠ closing) :
    peak opening closing n (first ++ second) = peak opening closing n second := by
  induction first with
  | nil => rfl
  | cons c first ih =>
    rw [List.cons_append, peak_other (h c List.mem_cons_self)]
    exact ih fun d hd => h d (List.mem_cons_of_mem _ hd)

section

variable (hne : opening ≠ closing)

include hne

theorem opened_closing :
    opened opening closing (n + 1) (closing :: text) = opened opening closing n text := by
  simp [opened, hne.symm]

theorem opened_closing_zero : opened opening closing 0 (closing :: text) = none := by
  simp [opened, hne.symm]

theorem peak_closing :
    peak opening closing (n + 1) (closing :: text) = max (n + 1) (peak opening closing n text) := by
  rw [peak, if_neg hne.symm, if_pos rfl, Nat.add_sub_cancel]

/-- A walk that does not fail goes through brackets that open, brackets that close an open one, and
other characters. -/
theorem opened_induction {motive : ∀ n text, opened opening closing n text = some m → Prop}
    (nil : motive m [] rfl)
    (opening_cons : ∀ n text (h : opened opening closing (n + 1) text = some m),
      motive (n + 1) text h → motive n (opening :: text) (opened_opening.trans h))
    (closing_cons : ∀ n text (h : opened opening closing n text = some m),
      motive n text h → motive (n + 1) (closing :: text) ((opened_closing hne).trans h))
    (other_cons : ∀ n c text (hc : c ≠ opening ∧ c ≠ closing)
      (h : opened opening closing n text = some m),
      motive n text h → motive n (c :: text) ((opened_other hc).trans h)) :
    ∀ n text (h : opened opening closing n text = some m), motive n text h := by
  intro n text h
  induction text generalizing n with
  | nil =>
    obtain rfl : n = m := by simpa using h
    exact nil
  | cons c text ih =>
    by_cases ho : c = opening
    · subst ho
      exact opening_cons n text (opened_opening.symm.trans h) (ih _ _)
    · by_cases hc : c = closing
      · subst hc
        cases n with
        | zero =>
          rw [opened_closing_zero hne] at h
          cases h
        | succ n => exact closing_cons n text ((opened_closing hne).symm.trans h) (ih _ _)
      · have hother : c ≠ opening ∧ c ≠ closing := ⟨ho, hc⟩
        exact other_cons n c text hother ((opened_other hother).symm.trans h) (ih _ _)

theorem opened_append (h : opened opening closing n first = some m) :
    opened opening closing n (first ++ second) = opened opening closing m second := by
  induction n, first, h using opened_induction hne with
  | nil => rfl
  | opening_cons n first _ ih => rw [List.cons_append, opened_opening, ih]
  | closing_cons n first _ ih => rw [List.cons_append, opened_closing hne, ih]
  | other_cons n c first hc _ ih => rw [List.cons_append, opened_other hc, ih]

theorem peak_append (h : opened opening closing n first = some m) :
    peak opening closing n (first ++ second) =
      max (peak opening closing n first) (peak opening closing m second) := by
  induction n, first, h using opened_induction hne with
  | nil => rw [List.nil_append, peak_nil, Nat.max_eq_right le_peak]
  | opening_cons n first _ ih => rw [List.cons_append, peak_opening, peak_opening, ih]
  | closing_cons n first _ ih =>
    rw [List.cons_append, peak_closing hne, peak_closing hne, ih, Nat.max_assoc]
  | other_cons n c first hc _ ih => rw [List.cons_append, peak_other hc, peak_other hc, ih]

/-- Brackets that are open from the start do not matter to a walk that does not fail. -/
theorem opened_add (h : opened opening closing n text = some m) (k : Nat) :
    opened opening closing (n + k) text = some (m + k) := by
  induction n, text, h using opened_induction hne with
  | nil => rfl
  | opening_cons n text _ ih => rw [opened_opening, Nat.add_right_comm, ih]
  | closing_cons n text _ ih => rw [Nat.add_right_comm, opened_closing hne, ih]
  | other_cons n c text hc _ ih => rw [opened_other hc, ih]

theorem peak_add (h : opened opening closing n text = some m) (k : Nat) :
    peak opening closing (n + k) text = peak opening closing n text + k := by
  induction n, text, h using opened_induction hne with
  | nil => rfl
  | opening_cons n text _ ih => rw [peak_opening, peak_opening, Nat.add_right_comm, ih]
  | closing_cons n text _ ih =>
    rw [Nat.add_right_comm, peak_closing hne, peak_closing hne, ih]
    omega
  | other_cons n c text hc _ ih => rw [peak_other hc, peak_other hc, ih]

/-- The walk over the first part of a text does not fail where that over the whole does not. -/
theorem opened_of_append (h : opened opening closing n (first ++ second) = some m) :
    ∃ k, opened opening closing n first = some k ∧ opened opening closing k second = some m := by
  generalize htext : first ++ second = text at h
  induction n, text, h using opened_induction hne generalizing first with
  | nil =>
    obtain ⟨rfl, rfl⟩ := List.append_eq_nil_iff.mp htext
    exact ⟨m, rfl, rfl⟩
  | opening_cons n text h ih =>
    rcases List.append_eq_cons_iff.mp htext with ⟨rfl, rfl⟩ | ⟨first, rfl, rfl⟩
    · exact ⟨n, rfl, by rw [opened_opening, h]⟩
    · rw [opened_opening]
      exact ih rfl
  | closing_cons n text h ih =>
    rcases List.append_eq_cons_iff.mp htext with ⟨rfl, rfl⟩ | ⟨first, rfl, rfl⟩
    · exact ⟨n + 1, rfl, by rw [opened_closing hne, h]⟩
    · rw [opened_closing hne]
      exact ih rfl
  | other_cons n c text hc h ih =>
    rcases List.append_eq_cons_iff.mp htext with ⟨rfl, rfl⟩ | ⟨first, rfl, rfl⟩
    · exact ⟨n, rfl, by rw [opened_other hc, h]⟩
    · rw [opened_other hc]
      exact ih rfl

theorem opened_le_peak (h : opened opening closing n text = some m) :
    m ≤ peak opening closing n text := by
  induction n, text, h using opened_induction hne with
  | nil => exact Nat.le_refl m
  | opening_cons n text _ ih =>
    rw [peak_opening]
    exact ih
  | closing_cons n text _ ih =>
    rw [peak_closing hne]
    omega
  | other_cons n c text hc _ ih =>
    rw [peak_other hc]
    exact ih

theorem opened_append_plain (h : ∀ c ∈ second, c ≠ opening ∧ c ≠ closing) :
    opened opening closing n (first ++ second) = some m ↔
      opened opening closing n first = some m := by
  have hplain (k : Nat) : opened opening closing k second = some k := by
    rw [← List.append_nil second]
    exact opened_plain h
  constructor
  · intro hopened
    obtain ⟨k, hfirst, hsecond⟩ := opened_of_append hne hopened
    obtain rfl : k = m := Option.some.inj ((hplain k).symm.trans hsecond)
    exact hfirst
  · intro hfirst
    rw [opened_append hne hfirst, hplain]

theorem peak_append_plain (hplain : ∀ c ∈ second, c ≠ opening ∧ c ≠ closing)
    (h : opened opening closing n first = some m) :
    peak opening closing n (first ++ second) = peak opening closing n first := by
  have hsecond : peak opening closing m second = m := by
    rw [← List.append_nil second]
    exact peak_plain hplain
  rw [peak_append hne h, hsecond, Nat.max_eq_left (opened_le_peak hne h)]

theorem nested_append_plain {depth : Nat} (h : ∀ c ∈ second, c ≠ opening ∧ c ≠ closing) :
    Nested opening closing depth (first ++ second) ↔ Nested opening closing depth first := by
  rw [Nested, Nested, opened_append_plain hne h]
  refine and_congr_right fun hopened => ?_
  rw [peak_append_plain hne h hopened]

/-- Where fewer brackets are open at the end, the text is cut at the one where their count first goes
down to `n`: it closes a bracket that was open, with `k` more, at the start. -/
theorem exists_closing {depth : Nat} (h : opened opening closing depth text = some m) :
    ∀ k, depth = n + 1 + k → m ≤ n → ∃ inner after, text = inner ++ closing :: after ∧
      opened opening closing k inner = some 0 ∧ opened opening closing n after = some m := by
  induction depth, text, h using opened_induction hne with
  | nil =>
    intro k hk hm
    omega
  | opening_cons depth text _ ih =>
    intro k hk hm
    obtain ⟨inner, after, rfl, hinner, hafter⟩ := ih (k + 1) (by omega) hm
    exact ⟨opening :: inner, after, rfl, by rw [opened_opening, hinner], hafter⟩
  | closing_cons depth text h ih =>
    intro k hk hm
    cases k with
    | zero =>
      obtain rfl : depth = n := by omega
      exact ⟨[], text, rfl, rfl, h⟩
    | succ k =>
      obtain ⟨inner, after, rfl, hinner, hafter⟩ := ih k (by omega) hm
      exact ⟨closing :: inner, after, rfl, by rw [opened_closing hne, hinner], hafter⟩
  | other_cons depth c text hc _ ih =>
    intro k hk hm
    obtain ⟨inner, after, rfl, hinner, hafter⟩ := ih k hk hm
    exact ⟨c :: inner, after, rfl, by rw [opened_other hc, hinner], hafter⟩

theorem nested_group_iff {depth : Nat} {inner after : Text}
    (hinner : opened opening closing 0 inner = some 0) :
    Nested opening closing (depth + 1) (opening :: (inner ++ closing :: after)) ↔
      Nested opening closing depth inner ∧ Nested opening closing (depth + 1) after := by
  have hopened : opened opening closing 0 (opening :: (inner ++ closing :: after)) =
      opened opening closing 0 after := by
    rw [opened_opening, opened_append hne (opened_add hne hinner 1), opened_closing hne]
  have hpeak : peak opening closing 0 (opening :: (inner ++ closing :: after)) =
      max (peak opening closing 0 inner + 1) (peak opening closing 0 after) := by
    rw [peak_opening, peak_append hne (opened_add hne hinner 1), peak_add hne hinner 1,
      peak_closing hne]
    omega
  rw [Nested, Nested, Nested, hopened, hpeak]
  constructor
  · rintro ⟨hafter, hle⟩
    exact ⟨⟨hinner, by omega⟩, hafter, by omega⟩
  · rintro ⟨⟨_, hle⟩, hafter, hle'⟩
    exact ⟨hafter, by omega⟩

theorem nested_zero_iff :
    Nested opening closing 0 text ↔ ∀ c ∈ text, c ≠ opening ∧ c ≠ closing := by
  constructor
  · rintro ⟨hopened, hpeak⟩
    induction text with
    | nil => simp
    | cons c text ih =>
      by_cases ho : c = opening
      · have : 0 + 1 ≤ peak opening closing (0 + 1) text := le_peak
        rw [ho, peak_opening] at hpeak
        omega
      · by_cases hc : c = closing
        · rw [hc, opened_closing_zero hne] at hopened
          cases hopened
        · rw [opened_other ⟨ho, hc⟩] at hopened
          rw [peak_other ⟨ho, hc⟩] at hpeak
          exact List.forall_mem_cons.mpr ⟨⟨ho, hc⟩, ih hopened hpeak⟩
  · intro h
    rw [← List.append_nil text]
    exact ⟨opened_plain h, Nat.le_of_eq (peak_plain h)⟩

end

theorem nested_other_iff {depth : Nat} (h : c ≠ opening ∧ c ≠ closing) :
    Nested opening closing depth (c :: text) ↔ Nested opening closing depth text := by
  rw [Nested, Nested, opened_other h, peak_other h]

theorem count_opened (hne : opening ≠ closing) (h : opened opening closing n text = some m) :
    text.count closing + m = n + text.count opening := by
  induction n, text, h using opened_induction hne with
  | nil => simp
  | opening_cons n text _ ih =>
    rw [List.count_cons_self, List.count_cons_of_ne hne]
    omega
  | closing_cons n text _ ih =>
    rw [List.count_cons_self, List.count_cons_of_ne hne.symm]
    omega
  | other_cons n c text hc _ ih =>
    rw [List.count_cons_of_ne hc.1, List.count_cons_of_ne hc.2, ih]

theorem exists_overclosed (hne : opening ≠ closing) (h : opened opening closing n text = none) :
    ∃ front, front <+: text ∧ n + front.count opening < front.count closing := by
  induction text generalizing n with
  | nil => cases h
  | cons c text ih =>
    by_cases ho : c = opening
    · subst ho
      rw [opened_opening] at h
      obtain ⟨front, hfront, hlt⟩ := ih h
      refine ⟨c :: front, List.cons_prefix_cons.mpr ⟨rfl, hfront⟩, ?_⟩
      rw [List.count_cons_self, List.count_cons_of_ne hne]
      omega
    · by_cases hc : c = closing
      · subst hc
        cases n with
        | zero => exact ⟨[c], List.prefix_append [c] text, by simp [Ne.symm hne]⟩
        | succ n =>
          rw [opened_closing hne] at h
          obtain ⟨front, hfront, hlt⟩ := ih h
          refine ⟨c :: front, List.cons_prefix_cons.mpr ⟨rfl, hfront⟩, ?_⟩
          rw [List.count_cons_self, List.count_cons_of_ne hne.symm]
          omega
      · rw [opened_other ⟨ho, hc⟩] at h
        obtain ⟨front, hfront, hlt⟩ := ih h
        refine ⟨c :: front, List.cons_prefix_cons.mpr ⟨rfl, hfront⟩, ?_⟩
        rwa [List.count_cons_of_ne ho, List.count_cons_of_ne hc]

/-- A walk reaches a number of open brackets exactly if that is what the numbers of brackets come to,
and nowhere on the way more are closed than opened. -/
theorem opened_eq_some_iff (hne : opening ≠ closing) :
    opened opening closing n text = some m ↔
      text.count closing + m = n + text.count opening ∧
        ∀ front, front <+: text → front.count closing ≤ n + front.count opening := by
  constructor
  · intro h
    refine ⟨count_opened hne h, ?_⟩
    rintro front ⟨rest, rfl⟩
    obtain ⟨k, hfront, -⟩ := opened_of_append hne h
    have := count_opened hne hfront
    omega
  · rintro ⟨hcount, hfronts⟩
    cases h : opened opening closing n text with
    | none =>
      obtain ⟨front, hfront, hlt⟩ := exists_overclosed hne h
      exact absurd (hfronts front hfront) (Nat.not_le.mpr hlt)
    | some k =>
      have := count_opened hne h
      congr 1
      omega

theorem forall_prefix_cons {motive : Text → Prop} :
    (∀ front, front <+: c :: text → motive front) ↔
      motive [] ∧ ∀ front, front <+: text → motive (c :: front) := by
  constructor
  · intro h
    exact ⟨h [] List.nil_prefix, fun front hfront => h _ (List.cons_prefix_cons.mpr ⟨rfl, hfront⟩)⟩
  · rintro ⟨hnil, hcons⟩ front hfront
    cases front with
    | nil => exact hnil
    | cons d front =>
      obtain ⟨rfl, hrest⟩ := List.cons_prefix_cons.mp hfront
      exact hcons front hrest

/-- No more brackets are open at once than are open behind some front of the text. -/
theorem peak_le_iff (hne : opening ≠ closing) {most : Nat}
    (h : opened opening closing n text = some m) :
    peak opening closing n text ≤ most ↔
      ∀ front, front <+: text → n + front.count opening ≤ most + front.count closing := by
  induction n, text, h using opened_induction hne with
  | nil => simp
  | opening_cons n text _ ih =>
    rw [peak_opening, ih, forall_prefix_cons]
    simp only [List.count_cons_self, List.count_cons_of_ne hne, List.count_nil]
    constructor
    · intro hfronts
      have := hfronts [] List.nil_prefix
      rw [List.count_nil, List.count_nil] at this
      exact ⟨by omega, fun front hfront => by have := hfronts front hfront; omega⟩
    · rintro ⟨-, hfronts⟩ front hfront
      have := hfronts front hfront
      omega
  | closing_cons n text _ ih =>
    rw [peak_closing hne, Nat.max_le, ih, forall_prefix_cons]
    simp only [List.count_cons_self, List.count_cons_of_ne hne.symm, List.count_nil]
    refine and_congr Iff.rfl (forall_congr' fun front => imp_congr_right fun _ => ?_)
    omega
  | other_cons n c text hc _ ih =>
    rw [peak_other hc, ih, forall_prefix_cons]
    simp only [List.count_cons_of_ne hc.1, List.count_cons_of_ne hc.2, List.count_nil]
    refine ⟨fun hfronts => ⟨?_, hfronts⟩, fun hfronts => hfronts.2⟩
    exact hfronts [] List.nil_prefix

/-- Nesting in numbers of brackets: as many close as open, and behind every front of the text none more
are closed than opened, and at most `depth` are open. -/
theorem nested_iff_counts (hne : opening ≠ closing) {depth : Nat} :
    Nested opening closing depth text ↔ text.count closing = text.count opening ∧
      ∀ front, front <+: text → front.count closing ≤ front.count opening ∧
        front.count opening ≤ depth + front.count closing := by
  rw [Nested]
  constructor
  · rintro ⟨hopened, hpeak⟩
    obtain ⟨hcount, hfronts⟩ := (opened_eq_some_iff hne).mp hopened
    have hopen := (peak_le_iff hne hopened).mp hpeak
    simp only [Nat.zero_add, Nat.add_zero] at hcount hfronts hopen
    exact ⟨hcount, fun front hfront => ⟨hfronts front hfront, hopen front hfront⟩⟩
  · rintro ⟨hcount, hfronts⟩
    have hopened : opened opening closing 0 text = some 0 := by
      refine (opened_eq_some_iff hne).mpr ⟨by omega, fun front hfront => ?_⟩
      have := (hfronts front hfront).1
      omega
    refine ⟨hopened, (peak_le_iff hne hopened).mpr fun front hfront => ?_⟩
    have := (hfronts front hfront).2
    omega

end Text

/-- A braced item ends at the brace that brings the count of open braces back to zero. -/
theorem Matcher.closing?_eq_some_iff {text : Text} {depth pos stop : Nat} :
    closing? (depth + 1) pos text = some stop ↔
      ∃ inner after, text = inner ++ '\x7d' :: after ∧ stop = pos + inner.length + 1 ∧
        Text.opened '\x7b' '\x7d' depth inner = some 0 := by
  have hne : '\x7b' ≠ '\x7d' := by decide
  constructor
  · intro h
    induction text generalizing depth pos with
    | nil => cases h
    | cons c text ih =>
      rw [closing?.eq_def] at h
      simp only at h
      split at h
      next ho =>
        obtain ⟨inner, after, rfl, rfl, hinner⟩ := ih h
        refine ⟨c :: inner, after, rfl, by simp; omega, ?_⟩
        rw [ho, Text.opened_opening, hinner]
      next ho =>
        split at h
        next hc =>
          cases depth with
          | zero => exact ⟨[], text, by rw [hc]; rfl, by simpa using h.symm, rfl⟩
          | succ depth =>
            obtain ⟨inner, after, rfl, rfl, hinner⟩ := ih h
            refine ⟨c :: inner, after, rfl, by simp; omega, ?_⟩
            rw [hc, Text.opened_closing hne, hinner]
        next hc =>
          obtain ⟨inner, after, rfl, rfl, hinner⟩ := ih h
          refine ⟨c :: inner, after, rfl, by simp; omega, ?_⟩
          rw [Text.opened_other ⟨ho, hc⟩, hinner]
  · rintro ⟨inner, after, rfl, rfl, h⟩
    induction depth, inner, h using Text.opened_induction hne generalizing pos with
    | nil => simp [closing?]
    | opening_cons depth inner _ ih =>
      rw [List.cons_append, closing?.eq_def]
      simp only [if_true, ih, List.length_cons]
      congr 1
      omega
    | closing_cons depth inner _ ih =>
      rw [List.cons_append, closing?.eq_def]
      simp only [if_neg hne.symm, if_true, ih, List.length_cons]
      congr 1
      omega
    | other_cons depth c inner hc _ ih =>
      rw [List.cons_append, closing?.eq_def]
      simp only [if_neg hc.1, if_neg hc.2, ih, List.length_cons]
      congr 1
      omega

end Recast
