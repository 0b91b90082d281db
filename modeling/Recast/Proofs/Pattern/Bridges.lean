import Recast.Proofs.Pattern.Moves
import Recast.Proofs.Pattern.Reads
import Recast.Proofs.Pattern.Threads

/-! The automaton of any pattern accepts what the pattern matches, also where a part that is repeated
without bound may match nothing. A block bridges its entry and the state behind it: the ways over the
block are the places that the part of the pattern leads to. The number of moves bounds the rounds of a
loop, so every round that is cut off a way leaves a shorter one. -/

namespace Recast

theorem Cursor.past_append (here : Cursor) (first second : Text) :
    here.past (first ++ second) = (here.past first).past second := by
  simp [past, Nat.add_assoc, List.drop_drop]

/-- The ways from one state to acceptance are the ways over a bridge to another state and on. -/
structure Bridge (steps : Array Step) (way : Cursor → Cursor → Prop) (base next : Nat) : Prop where
  sound : ∀ {n here last}, Accepts steps n base here last →
    ∃ there, way here there ∧ ∃ m ≤ n, Accepts steps m next there last
  complete : ∀ {m here there last}, way here there → Accepts steps m next there last →
    ∃ n, Accepts steps n base here last

def Rounds (way : Cursor → Cursor → Prop) : Nat → Cursor → Cursor → Prop
  | 0, here, there => here = there
  | n + 1, here, there => ∃ middle, way here middle ∧ Rounds way n middle there

theorem rounds_add_iff {way : Cursor → Cursor → Prop} {here there : Cursor} (n m : Nat) :
    Rounds way (n + m) here there ↔
      ∃ middle, Rounds way n here middle ∧ Rounds way m middle there := by
  induction n generalizing here with
  | zero =>
    rw [Nat.zero_add]
    constructor
    · exact fun h => ⟨here, rfl, h⟩
    · rintro ⟨middle, rfl, h⟩
      exact h
  | succ n ih =>
    rw [Nat.add_right_comm]
    constructor
    · rintro ⟨first, hfirst, h⟩
      obtain ⟨middle, hmiddle, hrest⟩ := ih.mp h
      exact ⟨middle, ⟨first, hfirst, hmiddle⟩, hrest⟩
    · rintro ⟨middle, ⟨first, hfirst, hmiddle⟩, hrest⟩
      exact ⟨first, hfirst, ih.mpr ⟨middle, hmiddle, hrest⟩⟩

namespace Bridge

variable {steps : Array Step} {way way₁ way₂ : Cursor → Cursor → Prop}
  {base middle next : Nat} {step : Step}

theorem congr (h : ∀ here there, way₁ here there ↔ way₂ here there)
    (hb : Bridge steps way₁ base next) : Bridge steps way₂ base next where
  sound haccepts := by
    obtain ⟨there, hway, hrest⟩ := hb.sound haccepts
    exact ⟨there, (h _ _).mp hway, hrest⟩
  complete hway hrest := hb.complete ((h _ _).mpr hway) hrest

theorem refl (steps : Array Step) (base : Nat) : Bridge steps Eq base base where
  sound haccepts := ⟨_, rfl, _, Nat.le_refl _, haccepts⟩
  complete := by
    rintro m here _ last rfl haccepts
    exact ⟨m, haccepts⟩

theorem single (hs : steps[base]? = some step) (hne : step ≠ .accept)
    (h : ∀ here state there, step.Leads here state there ↔ state = next ∧ way here there) :
    Bridge steps way base next where
  sound haccepts := by
    obtain ⟨m, state, there, rfl, hlead, hrest⟩ := haccepts.of_step hs hne
    obtain ⟨rfl, hway⟩ := (h _ _ _).mp hlead
    exact ⟨there, hway, m, Nat.le_succ m, hrest⟩
  complete hway hrest := ⟨_, .move hs ((h _ _ _).mpr ⟨rfl, hway⟩) hrest⟩

theorem pass (hs : steps[base]? = some (.pass next)) : Bridge steps Eq base next :=
  single hs nofun fun here state there => by simp [Step.Leads, eq_comm]

theorem note {slot : Nat} (hs : steps[base]? = some (.note slot next)) :
    Bridge steps Eq base next :=
  single hs nofun fun here state there => by simp [Step.Leads, eq_comm]

theorem seq (h₁ : Bridge steps way₁ base middle) (h₂ : Bridge steps way₂ middle next) :
    Bridge steps (fun here last => ∃ there, way₁ here there ∧ way₂ there last) base next where
  sound haccepts := by
    obtain ⟨there, hfirst, m, hm, hrest⟩ := h₁.sound haccepts
    obtain ⟨last, hsecond, k, hk, hend⟩ := h₂.sound hrest
    exact ⟨last, ⟨there, hfirst, hsecond⟩, k, Nat.le_trans hk hm, hend⟩
  complete := by
    rintro m here last stop ⟨there, hfirst, hsecond⟩ haccepts
    obtain ⟨k, hrest⟩ := h₂.complete hsecond haccepts
    exact h₁.complete hfirst hrest

theorem leads_choose {lazy : Bool} {round onward state : Nat} {here there : Cursor} :
    (Step.choose lazy round onward).Leads here state there ↔
      (state = round ∨ state = onward) ∧ there = here := by
  cases lazy <;> simp [Step.choose, Step.Leads, or_comm]

theorem choose_ne_accept (lazy : Bool) (round onward : Nat) :
    Step.choose lazy round onward ≠ .accept := by
  cases lazy <;> simp [Step.choose]

theorem choose {lazy : Bool} {left right : Nat}
    (hs : steps[base]? = some (Step.choose lazy left right)) (h₁ : Bridge steps way₁ left next)
    (h₂ : Bridge steps way₂ right next) :
    Bridge steps (fun here there => way₁ here there ∨ way₂ here there) base next where
  sound haccepts := by
    obtain ⟨m, state, there, rfl, hlead, hrest⟩ :=
      haccepts.of_step hs (choose_ne_accept lazy left right)
    obtain ⟨rfl | rfl, rfl⟩ := leads_choose.mp hlead
    · obtain ⟨last, hway, k, hk, hend⟩ := h₁.sound hrest
      exact ⟨last, .inl hway, k, Nat.le_succ_of_le hk, hend⟩
    · obtain ⟨last, hway, k, hk, hend⟩ := h₂.sound hrest
      exact ⟨last, .inr hway, k, Nat.le_succ_of_le hk, hend⟩
  complete := by
    rintro m here there last (hway | hway) haccepts
    · obtain ⟨n, hfirst⟩ := h₁.complete hway haccepts
      exact ⟨n + 1, .move hs (leads_choose.mpr ⟨.inl rfl, rfl⟩) hfirst⟩
    · obtain ⟨n, hsecond⟩ := h₂.complete hway haccepts
      exact ⟨n + 1, .move hs (leads_choose.mpr ⟨.inr rfl, rfl⟩) hsecond⟩

/-- A fork that every round comes back to. The induction is on the number of moves, of which each
round takes one at least. -/
theorem loop {lazy : Bool} {round : Nat} (hs : steps[base]? = some (Step.choose lazy round next))
    (h : Bridge steps way round base) :
    Bridge steps (fun here there => ∃ n, Rounds way n here there) base next where
  sound := by
    intro n
    induction n using Nat.strongRecOn with
    | ind n ih =>
      intro here last haccepts
      obtain ⟨m, state, there, rfl, hlead, hrest⟩ :=
        haccepts.of_step hs (choose_ne_accept lazy round next)
      obtain ⟨rfl | rfl, rfl⟩ := leads_choose.mp hlead
      · obtain ⟨middle, hway, k, hk, hback⟩ := h.sound hrest
        obtain ⟨there, ⟨count, hrounds⟩, j, hj, hend⟩ := ih k (Nat.lt_succ_of_le hk) hback
        exact ⟨there, ⟨count + 1, middle, hway, hrounds⟩, j, by omega, hend⟩
      · exact ⟨there, ⟨0, rfl⟩, m, Nat.le_succ m, hrest⟩
  complete := by
    rintro m here there last ⟨count, hrounds⟩ haccepts
    induction count generalizing here with
    | zero =>
      obtain rfl := hrounds
      exact ⟨m + 1, .move hs (leads_choose.mpr ⟨.inr rfl, rfl⟩) haccepts⟩
    | succ count ih =>
      obtain ⟨middle, hway, hrest⟩ := hrounds
      obtain ⟨k, hback⟩ := ih hrest
      obtain ⟨n, hround⟩ := h.complete hway hback
      exact ⟨n + 1, .move hs (leads_choose.mpr ⟨.inl rfl, rfl⟩) hround⟩

section

variable {body : Block} {size : Nat} (hlen : ∀ base next, (body base next).length = size)
  (hbody : ∀ base next, Laid steps base (body base next) → Bridge steps way base next)

include hlen hbody

theorem rounds (count base : Nat) (h : Laid steps base (Step.rounds body size count base)) :
    Bridge steps (Rounds way count) base (base + count * size) := by
  induction count generalizing base with
  | zero =>
    rw [Nat.zero_mul, Nat.add_zero]
    exact (refl steps base).congr fun _ _ => Iff.rfl
  | succ count ih =>
    rw [Step.rounds_succ] at h
    have hrest := h.right
    rw [hlen] at hrest
    have hnext : base + size + count * size = base + (count + 1) * size := by
      rw [Nat.add_mul]
      omega
    exact hnext ▸ (hbody _ _ h.left).seq (ih (base + size) hrest)

theorem options (lazy : Bool) (count base leave : Nat)
    (hleave : leave = base + count * (size + 1))
    (h : Laid steps base (Step.options lazy body size count base leave)) :
    Bridge steps (fun here there => ∃ n ≤ count, Rounds way n here there) base leave := by
  induction count generalizing base with
  | zero =>
    rw [Nat.zero_mul, Nat.add_zero] at hleave
    subst hleave
    exact (refl steps leave).congr fun here there => by simp [Rounds]
  | succ count ih =>
    rw [Step.options_succ] at h
    have hround := hbody _ _ h.left.tail
    have hrest := h.right
    rw [List.length_cons, hlen, ← Nat.add_assoc, Nat.add_right_comm] at hrest
    have hnext := ih (base + 1 + size) (by rw [hleave, Nat.add_mul]; omega) hrest
    refine (choose h.left.head (hround.seq hnext) (refl steps leave)).congr fun here there => ?_
    constructor
    · rintro (⟨middle, hway, n, hn, hrounds⟩ | rfl)
      · exact ⟨n + 1, Nat.succ_le_succ hn, middle, hway, hrounds⟩
      · exact ⟨0, Nat.zero_le _, rfl⟩
    · rintro ⟨n, hn, hrounds⟩
      cases n with
      | zero => exact .inr hrounds
      | succ n =>
        obtain ⟨middle, hway, hrounds⟩ := hrounds
        exact .inl ⟨middle, hway, n, Nat.le_of_succ_le_succ hn, hrounds⟩

theorem plus {lazy : Bool} (h : Laid steps base (Step.plus lazy body size base next)) :
    Bridge steps (fun here there => ∃ n, Rounds way (n + 1) here there) base next := by
  obtain ⟨hround, hfork⟩ := Step.laid_plus hlen h
  refine ((hbody _ _ hround).seq (loop hfork (hbody _ _ hround))).congr fun here there => ?_
  constructor
  · rintro ⟨middle, hfirst, n, hrest⟩
    exact ⟨n, middle, hfirst, hrest⟩
  · rintro ⟨n, middle, hfirst, hrest⟩
    exact ⟨middle, hfirst, n, hrest⟩

theorem plusOrNone {lazy : Bool}
    (h : Laid steps base (Step.plusOrNone lazy body size base next)) :
    Bridge steps (fun here there => ∃ n, Rounds way n here there) base next := by
  obtain ⟨hfork, hplus, hpass⟩ := Step.laid_plusOrNone hlen h
  refine ((choose hfork (plus hlen hbody hplus) (refl steps _)).seq (pass hpass)).congr
    fun here there => ?_
  constructor
  · rintro ⟨_, ⟨n, hrounds⟩ | rfl, rfl⟩
    · exact ⟨n + 1, hrounds⟩
    · exact ⟨0, rfl⟩
  · rintro ⟨n, hrounds⟩
    cases n with
    | zero => exact ⟨there, .inr hrounds, rfl⟩
    | succ n => exact ⟨there, .inl ⟨n, hrounds⟩, rfl⟩

end

end Bridge

namespace Pattern

def Crosses (pattern : Pattern) (here there : Cursor) : Prop :=
  ∃ text, here.rest = text ++ there.rest ∧ there = here.past text ∧
    pattern.Reads here.prev text there.rest

variable {pattern first second body : Pattern} {here there : Cursor}

theorem crosses_iff_ends (slots : List (Nat × Nat)) :
    pattern.Crosses here there ↔ ∃ found ∈ pattern.ends (here, slots), found.1 = there := by
  constructor
  · rintro ⟨text, hrest, hpast, hreads⟩
    obtain ⟨found, hf, hfound⟩ := hreads.mem_ends here.pos slots
    rw [← hrest] at hf
    refine ⟨found, hf, hfound.trans ?_⟩
    rw [hpast, Cursor.past, hrest, List.drop_left]
  · rintro ⟨found, hf, rfl⟩
    exact mem_ends hf

theorem crosses_empty : empty.Crosses here there ↔ here = there := by
  simp [crosses_iff_ends [], ends]

theorem crosses_char {members : CharClass} :
    (char members).Crosses here there ↔
      ∃ c rest, here.rest = c :: rest ∧ members.has c = true ∧
        there = ⟨here.pos + 1, some c, rest⟩ := by
  rw [crosses_iff_ends []]
  constructor
  · rintro ⟨found, hf, rfl⟩
    cases hrest : here.rest with
    | nil => simp [ends, hrest] at hf
    | cons c rest =>
      simp only [ends, hrest] at hf
      split at hf
      next hc => exact ⟨c, rest, rfl, hc, congrArg Prod.fst (List.mem_singleton.mp hf)⟩
      next => cases hf
  · rintro ⟨c, rest, hrest, hc, rfl⟩
    exact ⟨_, by simp only [ends, hrest, if_pos hc]; exact List.mem_singleton_self _, rfl⟩

theorem crosses_look {condition : Look} :
    (look condition).Crosses here there ↔ condition.holds here = true ∧ there = here := by
  rw [crosses_iff_ends []]
  by_cases hc : condition.holds here = true <;> simp [ends, hc, eq_comm]

theorem crosses_group {index : Nat} :
    (group index body).Crosses here there ↔ body.Crosses here there := by
  rw [crosses_iff_ends [], crosses_iff_ends [(slot index, here.pos)]]
  simp only [ends, List.mem_map]
  constructor
  · rintro ⟨_, ⟨found, hf, rfl⟩, hfound⟩
    exact ⟨found, hf, hfound⟩
  · rintro ⟨found, hf, hfound⟩
    exact ⟨_, ⟨found, hf, rfl⟩, hfound⟩

theorem crosses_seq :
    (seq first second).Crosses here there ↔
      ∃ middle, first.Crosses here middle ∧ second.Crosses middle there := by
  rw [crosses_iff_ends []]
  constructor
  · rintro ⟨found, hf, rfl⟩
    obtain ⟨middle, hm, hf⟩ := List.mem_flatMap.mp hf
    exact ⟨middle.1, (crosses_iff_ends []).mpr ⟨middle, hm, rfl⟩,
      (crosses_iff_ends middle.2).mpr ⟨found, hf, rfl⟩⟩
  · rintro ⟨middle, hfirst, hsecond⟩
    obtain ⟨spot, hm, rfl⟩ := (crosses_iff_ends []).mp hfirst
    obtain ⟨found, hf, hfound⟩ := (crosses_iff_ends spot.2).mp hsecond
    exact ⟨found, List.mem_flatMap.mpr ⟨spot, hm, hf⟩, hfound⟩

theorem crosses_alt :
    (alt first second).Crosses here there ↔ first.Crosses here there ∨ second.Crosses here there := by
  simp only [crosses_iff_ends [], ends, List.mem_append, or_and_right, exists_or]

theorem rounds_crosses_iff (n : Nat) : ∀ {here there : Cursor},
    Rounds body.Crosses n here there ↔ ∃ text, here.rest = text ++ there.rest ∧
      there = here.past text ∧ body.Times n here.prev text there.rest := by
  induction n with
  | zero =>
    intro here there
    constructor
    · rintro rfl
      exact ⟨[], rfl, rfl, rfl⟩
    · rintro ⟨text, -, hpast, rfl⟩
      exact hpast.symm
  | succ n ih =>
    intro here there
    constructor
    · rintro ⟨middle, ⟨first, hfirst, rfl, hreads⟩, hrest⟩
      obtain ⟨more, hmore, rfl, htimes⟩ := ih.mp hrest
      refine ⟨first ++ more, ?_, (Cursor.past_append here first more).symm, first, more, rfl, ?_,
        htimes⟩
      · rw [hfirst, hmore, List.append_assoc]
      · rwa [← hmore]
    · rintro ⟨text, htext, rfl, first, more, rfl, hreads, htimes⟩
      rw [List.append_assoc] at htext
      have hmiddle : (here.past first).rest = more ++ (here.past (first ++ more)).rest := by
        rw [Cursor.past, htext, List.drop_left]
      refine ⟨here.past first, ⟨first, by rwa [hmiddle], rfl, by rwa [hmiddle]⟩, ?_⟩
      exact ih.mpr ⟨more, hmiddle, Cursor.past_append here first more, htimes⟩

/-- A repetition leads as far as its body does in a number of rounds within the bounds. -/
theorem crosses_repeated {bounds : Bounds} :
    (repeated body bounds).Crosses here there ↔
      ∃ n, (∀ most, bounds.most = some most → n ≤ most - bounds.least) ∧
        Rounds body.Crosses (bounds.least + n) here there := by
  simp only [Crosses, reads_repeated, rounds_crosses_iff]
  constructor
  · rintro ⟨text, hrest, hpast, n, hleast, hmost, htimes⟩
    obtain ⟨m, rfl⟩ := Nat.exists_eq_add_of_le hleast
    refine ⟨m, fun most hb => ?_, text, hrest, hpast, htimes⟩
    have := hmost most hb
    omega
  · rintro ⟨n, hmost, text, hrest, hpast, htimes⟩
    refine ⟨text, hrest, hpast, bounds.least + n, Nat.le_add_right _ _, fun most hb => ?_, htimes⟩
    have := hmost most hb
    omega

variable {steps : Array Step}

theorem repeated_bridges {bounds : Bounds} {base next : Nat}
    (hbody : ∀ base next, Laid steps base (body.block base next) →
      Bridge steps body.Crosses base next)
    (h : Laid steps base ((repeated body bounds).block base next)) :
    Bridge steps (repeated body bounds).Crosses base next := by
  obtain ⟨least, most, lazy⟩ := bounds
  simp only [block] at h
  have hlen := length_block body
  cases most with
  | some most =>
    obtain ⟨hmust, hmay, hpass⟩ := Step.laid_between hlen h
    have hrounds := Bridge.rounds hlen hbody least base hmust
    have hoptions := Bridge.options hlen hbody lazy (most - least) _ _ rfl hmay
    refine ((hrounds.seq hoptions).seq (Bridge.pass hpass)).congr fun here there => ?_
    rw [crosses_repeated]
    constructor
    · rintro ⟨_, ⟨middle, hleast, n, hn, hrest⟩, rfl⟩
      exact ⟨n, fun _ hb => Option.some.inj hb ▸ hn,
        (rounds_add_iff least n).mpr ⟨middle, hleast, hrest⟩⟩
    · rintro ⟨n, hn, hall⟩
      obtain ⟨middle, hmiddle, hrest⟩ := (rounds_add_iff least n).mp hall
      exact ⟨there, ⟨middle, hmiddle, n, hn most rfl, hrest⟩, rfl⟩
  | none =>
    cases least with
    | zero =>
      have unbounded (here there : Cursor) : (∃ n, Rounds body.Crosses n here there) ↔
          (repeated body ⟨0, none, lazy⟩).Crosses here there := by
        simp [crosses_repeated]
      by_cases hc : body.consumes = true
      · simp only [Step.within, if_pos hc, Step.loop] at h
        exact (Bridge.loop h.head (hbody _ _ h.tail)).congr unbounded
      · simp only [Step.within, if_neg hc] at h
        exact (Bridge.plusOrNone hlen hbody h).congr unbounded
    | succ n =>
      obtain ⟨hmust, hplus⟩ := Step.laid_succ hlen h
      have hrounds := Bridge.rounds hlen hbody n base hmust
      refine (hrounds.seq (Bridge.plus hlen hbody hplus)).congr fun here there => ?_
      rw [crosses_repeated]
      constructor
      · rintro ⟨middle, hfirst, m, hrest⟩
        refine ⟨m, fun _ hsome => absurd hsome.symm (Option.some_ne_none _), ?_⟩
        rw [Nat.add_right_comm n 1 m]
        exact (rounds_add_iff n (m + 1)).mpr ⟨middle, hfirst, hrest⟩
      · rintro ⟨m, -, hall⟩
        rw [Nat.add_right_comm n 1 m] at hall
        obtain ⟨middle, hfirst, hrest⟩ := (rounds_add_iff n (m + 1)).mp hall
        exact ⟨middle, hfirst, m, hrest⟩

theorem block_bridges (pattern : Pattern) (base next : Nat)
    (h : Laid steps base (pattern.block base next)) :
    Bridge steps pattern.Crosses base next := by
  induction pattern generalizing base next with
  | empty => exact (Bridge.pass h.head).congr fun _ _ => crosses_empty.symm
  | char members =>
    refine Bridge.single h.head nofun fun here state there => ?_
    simp only [crosses_char, Step.Leads]
    constructor
    · rintro ⟨c, rest, hrest, hc, hnext, hthere⟩
      exact ⟨hnext, c, rest, hrest, hc, hthere⟩
    · rintro ⟨hnext, c, rest, hrest, hc, hthere⟩
      exact ⟨c, rest, hrest, hc, hnext, hthere⟩
  | look condition =>
    refine Bridge.single h.head nofun fun here state there => ?_
    rw [crosses_look]
    exact and_left_comm
  | group index body ih =>
    have hlast := h.right.head
    rw [List.length_cons, length_block, ← Nat.add_assoc, Nat.add_right_comm] at hlast
    have hbody := ih (base + 1) (base + 1 + body.size) h.left.tail
    refine (((Bridge.note h.left.head).seq hbody).seq (Bridge.note hlast)).congr
      fun here there => ?_
    rw [crosses_group]
    simp
  | seq first second ih₁ ih₂ =>
    have hsecond := h.right
    rw [length_block] at hsecond
    exact ((ih₁ _ _ h.left).seq (ih₂ _ _ hsecond)).congr fun _ _ => crosses_seq.symm
  | alt first second ih₁ ih₂ =>
    have hsecond := h.right
    rw [List.length_cons, length_block, ← Nat.add_assoc, Nat.add_right_comm] at hsecond
    have hfork : steps[base]? =
        some (Step.choose false (base + 1) (base + 1 + first.size)) := h.left.head
    exact (Bridge.choose hfork (ih₁ _ _ h.left.tail) (ih₂ _ _ hsecond)).congr
      fun _ _ => crosses_alt.symm
  | repeated body bounds ih => exact repeated_bridges ih h

/-- The automaton of a pattern accepts what the pattern matches. -/
theorem accepts_automaton_iff :
    (∃ n, Accepts pattern.automaton n 0 here there) ↔ pattern.Crosses here there := by
  have hlaid : Laid pattern.automaton 0 (pattern.block 0 pattern.size ++ [Step.accept]) := by
    intro i step hi
    simpa [automaton] using hi
  have haccept := hlaid.right.head
  rw [length_block, Nat.zero_add] at haccept
  have hbridge := block_bridges pattern 0 pattern.size hlaid.left
  constructor
  · rintro ⟨n, haccepts⟩
    obtain ⟨stop, hcrosses, m, -, hend⟩ := hbridge.sound haccepts
    rwa [hend.of_accept haccept]
  · exact fun hcrosses => hbridge.complete hcrosses (.accept haccept)

end Pattern

end Recast
