import Recast.Proofs.Pattern.Rewriting

/-! Which texts a pattern matches, as a relation: `Reads pattern prev text rest` says that the pattern
matches `text` where it stands between the character `prev` and `rest`. The relation has one law for
each way to build a pattern, and it holds of some text exactly where the pattern matches at all. -/

namespace Recast.Pattern

/-- The pattern matches a text that stands behind `prev` and before `rest`. -/
def Reads (pattern : Pattern) (prev : Option Char) (text rest : Text) : Prop :=
  ∃ found ∈ pattern.ends (⟨0, prev, text ++ rest⟩, []), found.1.rest = rest

def Times (pattern : Pattern) : Nat → Option Char → Text → Text → Prop
  | 0, _, text, _ => text = []
  | n + 1, prev, text, rest => ∃ first more, text = first ++ more ∧
      pattern.Reads prev first (more ++ rest) ∧
      pattern.Times n (Text.lastFrom prev first) more rest

variable {pattern first second body : Pattern} {prev : Option Char} {text rest : Text}

theorem mem_ends {spot found : Spot} (h : found ∈ pattern.ends spot) :
    ∃ text, spot.1.rest = text ++ found.1.rest ∧ found.1 = spot.1.past text ∧
      pattern.Reads spot.1.prev text found.1.rest := by
  obtain ⟨text, htext, hpast⟩ := ends_reaches pattern spot found h
  refine ⟨text, htext, hpast, ?_⟩
  have hshift : spot = Spot.shift spot.1.pos spot.2 (⟨0, spot.1.prev, text ++ found.1.rest⟩, []) := by
    simp [Spot.shift, ← htext]
  rw [hshift, ends_shift] at h
  obtain ⟨base, hbase, heq⟩ := List.mem_map.mp h
  exact ⟨base, hbase, by rw [← heq]; rfl⟩

theorem Reads.mem_ends (h : pattern.Reads prev text rest) (pos : Nat) (slots : List (Nat × Nat)) :
    ∃ found ∈ pattern.ends (⟨pos, prev, text ++ rest⟩, slots),
      found.1 = ⟨pos + text.length, Text.lastFrom prev text, rest⟩ := by
  obtain ⟨base, hbase, hrest⟩ := h
  have hshift : ((⟨pos, prev, text ++ rest⟩ : Cursor), slots) =
      Spot.shift pos slots (⟨0, prev, text ++ rest⟩, []) := by
    simp [Spot.shift]
  obtain ⟨u, hu, hpast⟩ := ends_reaches pattern _ base hbase
  rw [hrest] at hu
  obtain rfl : text = u := List.append_cancel_right hu
  refine ⟨base.shift pos slots, ?_, ?_⟩
  · rw [hshift, ends_shift]
    exact List.mem_map_of_mem hbase
  · simp [Spot.shift, hpast, Cursor.past]

theorem reads_of_width? {n : Nat} (h : pattern.width? prev text = some n) :
    pattern.Reads prev (text.take n) (text.drop n) := by
  obtain ⟨found, hf, rfl⟩ := Option.map_eq_some_iff.mp h
  obtain ⟨u, hu, hpast, hreads⟩ := Pattern.mem_ends (List.mem_of_mem_head? hf)
  simp only at hu hreads
  have hpos : found.1.pos = u.length := by simp [hpast, Cursor.past]
  simpa [hpos, hu] using hreads

theorem width?_isSome_iff :
    (pattern.width? prev text).isSome = true ↔
      ∃ first more, text = first ++ more ∧ pattern.Reads prev first more := by
  constructor
  · intro h
    obtain ⟨n, hn⟩ := Option.isSome_iff_exists.mp h
    exact ⟨text.take n, text.drop n, (List.take_append_drop n text).symm, reads_of_width? hn⟩
  · rintro ⟨first, more, rfl, found, hfound, _⟩
    obtain ⟨head, hhead⟩ := Option.isSome_iff_exists.mp
      (List.isSome_head?.mpr (List.ne_nil_of_mem hfound))
    simp [width?, hhead]

theorem width?_eq_none_iff_reads :
    pattern.width? prev text = none ↔
      ∀ first more, text = first ++ more → ¬ pattern.Reads prev first more := by
  rw [← Option.not_isSome_iff_eq_none, width?_isSome_iff]
  constructor
  · intro h first more heq hr
    exact h ⟨first, more, heq, hr⟩
  · rintro h ⟨first, more, heq, hr⟩
    exact h first more heq hr

@[simp]
theorem reads_empty : empty.Reads prev text rest ↔ text = [] := by
  simp [Reads, ends]

@[simp]
theorem reads_char {members : CharClass} :
    (char members).Reads prev text rest ↔ ∃ c, text = [c] ∧ members.has c = true := by
  constructor
  · intro h
    obtain ⟨found, hf, hpast⟩ := h.mem_ends 0 []
    cases text with
    | nil =>
      cases rest with
      | nil => simp [ends] at hf
      | cons c rest =>
        simp only [ends, List.nil_append] at hf
        split at hf
        · rw [List.mem_singleton.mp hf] at hpast
          simp at hpast
        · simp at hf
    | cons c text =>
      simp only [ends, List.cons_append] at hf
      split at hf
      · next hc =>
        rw [List.mem_singleton.mp hf] at hpast
        have hpos := congrArg Cursor.pos hpast
        simp only [List.length_cons] at hpos
        have hnil : text = [] := List.eq_nil_of_length_eq_zero (by omega)
        exact ⟨c, by rw [hnil], hc⟩
      · simp at hf
  · rintro ⟨c, rfl, hc⟩
    simp [Reads, ends, hc]

@[simp]
theorem reads_look {condition : Look} :
    (look condition).Reads prev text rest ↔
      text = [] ∧ condition.holds ⟨0, prev, rest⟩ = true := by
  constructor
  · rintro ⟨found, hf, hrest⟩
    simp only [ends] at hf
    split at hf
    · next hc =>
      rw [List.mem_singleton.mp hf] at hrest
      obtain rfl : text = [] := by simpa using hrest
      exact ⟨rfl, hc⟩
    · simp at hf
  · rintro ⟨rfl, hc⟩
    simp [Reads, ends, hc]

@[simp]
theorem reads_group {index : Nat} :
    (group index body).Reads prev text rest ↔ body.Reads prev text rest := by
  constructor
  · rintro ⟨found, hf, hrest⟩
    obtain ⟨inner, hinner, rfl⟩ := List.mem_map.mp hf
    obtain ⟨u, hu, _, hreads⟩ := Pattern.mem_ends hinner
    simp only at hrest hu hreads
    rw [hrest] at hu hreads
    obtain rfl : text = u := List.append_cancel_right hu
    exact hreads
  · intro h
    obtain ⟨found, hf, hpast⟩ := h.mem_ends 0 [(slot index, 0)]
    exact ⟨_, List.mem_map_of_mem hf, by rw [hpast]⟩

theorem reads_seq :
    (seq first second).Reads prev text rest ↔
      ∃ left right, text = left ++ right ∧ first.Reads prev left (right ++ rest) ∧
        second.Reads (Text.lastFrom prev left) right rest := by
  constructor
  · rintro ⟨found, hf, hrest⟩
    obtain ⟨middle, hm, hf⟩ := List.mem_flatMap.mp hf
    obtain ⟨left, hleft, hpast, hfirst⟩ := Pattern.mem_ends hm
    obtain ⟨right, hright, _, hsecond⟩ := Pattern.mem_ends hf
    rw [hrest] at hright hsecond
    rw [hright] at hleft hfirst
    refine ⟨left, right, ?_, hfirst, ?_⟩
    · exact List.append_cancel_right (by simpa using hleft)
    · simpa [hpast, Cursor.past] using hsecond
  · rintro ⟨left, right, rfl, hfirst, hsecond⟩
    obtain ⟨⟨middle, slots⟩, hm, hpast⟩ := hfirst.mem_ends 0 []
    simp only at hpast
    subst hpast
    obtain ⟨found, hf, hfound⟩ := hsecond.mem_ends (0 + left.length) slots
    refine ⟨found, ?_, by rw [hfound]⟩
    rw [List.append_assoc]
    exact List.mem_flatMap.mpr ⟨_, hm, hf⟩

@[simp]
theorem reads_alt :
    (alt first second).Reads prev text rest ↔
      first.Reads prev text rest ∨ second.Reads prev text rest := by
  simp only [Reads, ends, List.mem_append]
  constructor
  · rintro ⟨found, hf | hf, hrest⟩
    · exact .inl ⟨found, hf, hrest⟩
    · exact .inr ⟨found, hf, hrest⟩
  · rintro (⟨found, hf, hrest⟩ | ⟨found, hf, hrest⟩)
    · exact ⟨found, .inl hf, hrest⟩
    · exact ⟨found, .inr hf, hrest⟩

/-- The ends of several rounds are those of a text that is matched in so many rounds. -/
theorem mem_mustEnds_iff (n : Nat) : ∀ (pos : Nat) (prev : Option Char) (text rest : Text)
    (slots : List (Nat × Nat)),
    (∃ found ∈ mustEnds body.ends n (⟨pos, prev, text ++ rest⟩, slots), found.1.rest = rest) ↔
      body.Times n prev text rest := by
  induction n with
  | zero => simp [mustEnds, Times]
  | succ n ih =>
    intro pos prev text rest slots
    constructor
    · rintro ⟨found, hf, hrest⟩
      obtain ⟨middle, hm, hf⟩ := List.mem_flatMap.mp hf
      obtain ⟨first, hfirst, hpast, hreads⟩ := Pattern.mem_ends hm
      obtain ⟨more, hmore, _⟩ := mustEnds_reaches (ends_reaches body) n middle found hf
      rw [hrest] at hmore
      rw [hmore] at hfirst hreads
      refine ⟨first, more, ?_, hreads, ?_⟩
      · exact List.append_cancel_right (by simpa using hfirst)
      · refine (ih middle.1.pos _ more rest middle.2).mp ⟨found, ?_, hrest⟩
        have hspot : middle.1 = ⟨middle.1.pos, Text.lastFrom prev first, more ++ rest⟩ := by
          rw [← hmore, hpast]
          simp [Cursor.past]
        rw [← hspot]
        exact hf
    · rintro ⟨first, more, rfl, hreads, htimes⟩
      obtain ⟨⟨middle, held⟩, hm, hpast⟩ := hreads.mem_ends pos slots
      simp only at hpast
      subst hpast
      obtain ⟨found, hf, hrest⟩ := (ih (pos + first.length) _ more rest held).mpr htimes
      refine ⟨found, ?_, hrest⟩
      rw [List.append_assoc]
      exact List.mem_flatMap.mpr ⟨_, hm, hf⟩

/-- Rounds that may be made are any number of rounds that must be made, up to the bound. -/
theorem mem_mayEnds_iff {step : Spot → List Spot} {lazy : Bool} {found : Spot} (n : Nat) :
    ∀ spot : Spot, found ∈ mayEnds step lazy n spot ↔ ∃ m ≤ n, found ∈ mustEnds step m spot := by
  induction n with
  | zero =>
    intro spot
    simp [mayEnds, mustEnds]
  | succ n ih =>
    intro spot
    rw [mayEnds, mem_prefer, List.mem_flatMap]
    constructor
    · rintro (⟨middle, hm, hf⟩ | hf)
      · obtain ⟨m, hle, hf⟩ := (ih middle).mp hf
        exact ⟨m + 1, by omega, List.mem_flatMap.mpr ⟨middle, hm, hf⟩⟩
      · exact ⟨0, by omega, hf⟩
    · rintro ⟨m, hle, hf⟩
      cases m with
      | zero => exact .inr hf
      | succ m =>
        obtain ⟨middle, hm, hf⟩ := List.mem_flatMap.mp hf
        exact .inl ⟨middle, hm, (ih middle).mpr ⟨m, by omega, hf⟩⟩

theorem mustEnds_add (step : Spot → List Spot) (n m : Nat) (spot : Spot) :
    mustEnds step (n + m) spot = (mustEnds step n spot).flatMap (mustEnds step m) := by
  induction m with
  | zero =>
    have : mustEnds step 0 = fun spot => [spot] := rfl
    rw [Nat.add_zero, this]
    simp
  | succ m ih =>
    have hsucc : mustEnds step (m + 1) = fun spot => (mustEnds step m spot).flatMap step :=
      funext fun spot => mustEnds_succ step m spot
    rw [← Nat.add_assoc, mustEnds_succ, ih, List.flatMap_assoc, hsucc]

theorem Times.shorten (n : Nat) : ∀ {prev : Option Char} {text : Text}, body.Times n prev text rest →
    ∃ m ≤ text.length, body.Times m prev text rest := by
  induction n with
  | zero =>
    rintro prev text rfl
    exact ⟨0, Nat.le_refl 0, rfl⟩
  | succ n ih =>
    rintro prev text ⟨first, more, rfl, hreads, htimes⟩
    obtain ⟨m, hm, hmore⟩ := ih htimes
    cases first with
    | nil => exact ⟨m, hm, hmore⟩
    | cons c first =>
      refine ⟨m + 1, ?_, c :: first, more, rfl, hreads, hmore⟩
      rw [List.length_append, List.length_cons]
      omega

theorem times_add_iff (n m : Nat) : ∀ {prev : Option Char} {text : Text},
    body.Times (n + m) prev text rest ↔ ∃ left right, text = left ++ right ∧
      body.Times n prev left (right ++ rest) ∧
      body.Times m (Text.lastFrom prev left) right rest := by
  induction n with
  | zero =>
    intro prev text
    rw [Nat.zero_add]
    constructor
    · exact fun h => ⟨[], text, rfl, rfl, h⟩
    · rintro ⟨left, right, rfl, rfl, h⟩
      exact h
  | succ n ih =>
    intro prev text
    rw [Nat.add_right_comm]
    constructor
    · rintro ⟨first, more, rfl, hreads, htimes⟩
      obtain ⟨left, right, rfl, hleft, hright⟩ := ih.mp htimes
      refine ⟨first ++ left, right, by simp, ⟨first, left, rfl, by simpa using hreads, hleft⟩, ?_⟩
      rwa [Text.lastFrom_append]
    · rintro ⟨left, right, rfl, ⟨first, more, rfl, hreads, hmore⟩, hright⟩
      rw [Text.lastFrom_append] at hright
      exact ⟨first, more ++ right, by simp, by simpa using hreads,
        ih.mpr ⟨more, right, rfl, hmore, hright⟩⟩

/-- Beyond the rounds that must be made, as many may be made as the bound admits, or else as many as
there are characters to read. -/
theorem mem_ends_repeated {bounds : Bounds} {spot found : Spot} :
    found ∈ (repeated body bounds).ends spot ↔
      ∃ middle ∈ mustEnds body.ends bounds.least spot, ∃ m,
        (∀ most, bounds.most = some most → m ≤ most - bounds.least) ∧
        (bounds.most = none → m ≤ middle.1.rest.length) ∧ found ∈ mustEnds body.ends m middle := by
  obtain ⟨least, most, lazy⟩ := bounds
  cases most <;> simp [ends, mem_mayEnds_iff]

/-- A repetition reads what its body reads in a number of rounds within the bounds. -/
theorem reads_repeated {bounds : Bounds} :
    (repeated body bounds).Reads prev text rest ↔
      ∃ n, bounds.least ≤ n ∧ (∀ most, bounds.most = some most → n ≤ max bounds.least most) ∧
        body.Times n prev text rest := by
  constructor
  · rintro ⟨found, hf, hrest⟩
    obtain ⟨middle, hm, m, hmost, -, hf⟩ := mem_ends_repeated.mp hf
    have hmem : found ∈ mustEnds body.ends (bounds.least + m) (⟨0, prev, text ++ rest⟩, []) := by
      rw [mustEnds_add]
      exact List.mem_flatMap.mpr ⟨middle, hm, hf⟩
    refine ⟨bounds.least + m, Nat.le_add_right _ _, fun most hbound => ?_, ?_⟩
    · have := hmost most hbound
      omega
    · exact (mem_mustEnds_iff _ 0 prev text rest []).mp ⟨found, hmem, hrest⟩
  · rintro ⟨n, hleast, hmost, htimes⟩
    obtain ⟨m, rfl⟩ := Nat.exists_eq_add_of_le hleast
    obtain ⟨left, right, rfl, hleft, hright⟩ := (times_add_iff bounds.least m).mp htimes
    obtain ⟨middle, hm, hmiddle⟩ :=
      (mem_mustEnds_iff bounds.least 0 prev left (right ++ rest) []).mpr hleft
    obtain ⟨u, hu, hpast⟩ := mustEnds_reaches (ends_reaches body) bounds.least _ middle hm
    obtain rfl : left = u := by
      rw [hmiddle] at hu
      exact List.append_cancel_right hu
    have hspot : middle.1 = ⟨left.length, Text.lastFrom prev left, right ++ rest⟩ := by
      simp [hpast, Cursor.past]
    -- Without an upper bound there may be more rounds than characters, but some of them are empty.
    obtain ⟨k, hbound, hroom, hright⟩ : ∃ k,
        (∀ most, bounds.most = some most → k ≤ most - bounds.least) ∧
        (bounds.most = none → k ≤ middle.1.rest.length) ∧
        body.Times k (Text.lastFrom prev left) right rest := by
      cases hb : bounds.most with
      | some most =>
        refine ⟨m, fun other hother => ?_, (absurd · (Option.some_ne_none most)), hright⟩
        have := hmost most hb
        obtain rfl := Option.some.inj hother
        omega
      | none =>
        obtain ⟨k, hk, hright⟩ := hright.shorten
        refine ⟨k, fun _ hsome => absurd hsome.symm (Option.some_ne_none _), fun _ => ?_, hright⟩
        rw [hmiddle, List.length_append]
        exact Nat.le_add_right_of_le hk
    obtain ⟨found, hf, hrest⟩ :=
      (mem_mustEnds_iff k left.length (Text.lastFrom prev left) right rest middle.2).mpr hright
    rw [← hspot] at hf
    rw [← List.append_assoc] at hm
    exact ⟨found, mem_ends_repeated.mpr ⟨middle, hm, k, hbound, hroom, hf⟩, hrest⟩

theorem times_char_iff {members : CharClass} (n : Nat) : ∀ {prev : Option Char} {text : Text},
    (char members).Times n prev text rest ↔
      text.length = n ∧ ∀ c ∈ text, members.has c = true := by
  induction n with
  | zero =>
    intro prev text
    simp only [Times, List.length_eq_zero_iff]
    constructor
    · rintro rfl
      exact ⟨rfl, by simp⟩
    · exact fun h => h.1
  | succ n ih =>
    intro prev text
    simp only [Times, reads_char]
    constructor
    · rintro ⟨first, more, rfl, ⟨c, rfl, hc⟩, htimes⟩
      obtain ⟨hlen, hall⟩ := ih.mp htimes
      refine ⟨by simp [hlen], ?_⟩
      intro d hd
      rcases List.mem_append.mp hd with hd | hd
      · rw [List.mem_singleton.mp hd]
        exact hc
      · exact hall d hd
    · rintro ⟨hlen, hall⟩
      cases text with
      | nil => simp at hlen
      | cons c text =>
        refine ⟨[c], text, rfl, ⟨c, rfl, hall c List.mem_cons_self⟩, ih.mpr ⟨?_, ?_⟩⟩
        · simpa using hlen
        · exact fun d hd => hall d (List.mem_cons_of_mem _ hd)

theorem reads_many {members : CharClass} {least : Nat} {lazy : Bool} :
    (repeated (char members) ⟨least, none, lazy⟩).Reads prev text rest ↔
      least ≤ text.length ∧ ∀ c ∈ text, members.has c = true := by
  rw [reads_repeated]
  constructor
  · rintro ⟨n, hleast, _, htimes⟩
    obtain ⟨rfl, hall⟩ := (times_char_iff n).mp htimes
    exact ⟨hleast, hall⟩
  · rintro ⟨hleast, hall⟩
    exact ⟨text.length, hleast, by simp, (times_char_iff _).mpr ⟨rfl, hall⟩⟩

theorem reads_optional {lazy : Bool} :
    (repeated body ⟨0, some 1, lazy⟩).Reads prev text rest ↔
      text = [] ∨ body.Reads prev text rest := by
  rw [reads_repeated]
  constructor
  · rintro ⟨n, _, hmost, htimes⟩
    have hn : n ≤ 1 := hmost 1 rfl
    match n, hn with
    | 0, _ => exact .inl htimes
    | 1, _ =>
      obtain ⟨first, more, rfl, hreads, rfl⟩ := htimes
      exact .inr (by simpa using hreads)
  · rintro (rfl | hreads)
    · exact ⟨0, by simp, by simp, rfl⟩
    · exact ⟨1, by simp, by simp, text, [], by simp, by simpa using hreads, rfl⟩

theorem width?_of_reads (hr : pattern.Reads prev text rest)
    (honly : ∀ first more, text ++ rest = first ++ more → pattern.Reads prev first more →
      first.length = text.length) : pattern.width? prev (text ++ rest) = some text.length := by
  obtain ⟨n, hn⟩ := Option.isSome_iff_exists.mp (width?_isSome_iff.mpr ⟨text, rest, rfl, hr⟩)
  have hlength := honly _ _ (List.take_append_drop n (text ++ rest)).symm (reads_of_width? hn)
  rw [List.length_take, Nat.min_eq_left (width?_le hn)] at hlength
  rw [hn, hlength]

theorem ends_optional (body : Pattern) (spot : Spot) :
    (repeated body ⟨0, some 1, false⟩).ends spot = body.ends spot ++ [spot] := by
  simp [ends, mustEnds, mayEnds, prefer]

/-- Where something may be left out, a match with it is preferred to one without it. -/
theorem width?_optional (prev : Option Char) (text : Text) :
    (seq (repeated first ⟨0, some 1, false⟩) second).width? prev text =
      ((seq first second).width? prev text).or (second.width? prev text) := by
  have hseq (left : Pattern) (spot : Spot) :
      (seq left second).ends spot = (left.ends spot).flatMap second.ends := by
    rw [ends]
  rw [width?, width?, width?, hseq, hseq, ends_optional, List.flatMap_append, List.head?_append,
    List.flatMap_singleton]
  cases ((first.ends (⟨0, prev, text⟩, [])).flatMap second.ends).head? <;> rfl

end Recast.Pattern
