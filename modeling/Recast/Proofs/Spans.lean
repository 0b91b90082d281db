import Recast.Matcher
import Recast.Proofs.Pattern.Moves
import Recast.Proofs.Text

/-! Where the spans of a matcher lie, for every matcher and every text: in the text, from left to right
and without overlap. A search only finds what begins at the cursor or later and ends in the text,
because a thread keeps the place where it began. A sweep goes on behind what was found, so what its
probe says of one place carries over to all hits. -/

namespace Recast

/-- Spans between two offsets that ascend and do not overlap. -/
def Span.Ordered : Nat → Nat → List Span → Prop
  | low, high, [] => low ≤ high
  | low, high, span :: more =>
    low ≤ span.start ∧ span.start ≤ span.stop ∧ Ordered span.stop high more

namespace Span.Ordered

variable {low high : Nat} {spans : List Span}

theorem le (h : Ordered low high spans) : low ≤ high := by
  induction spans generalizing low with
  | nil => exact h
  | cons span more ih =>
    obtain ⟨hstart, hstop, hmore⟩ := h
    have := ih hmore
    omega

theorem from_le {low' : Nat} (hle : low' ≤ low) (h : Ordered low high spans) :
    Ordered low' high spans := by
  cases spans with
  | nil => exact Nat.le_trans hle h
  | cons span more => exact ⟨Nat.le_trans hle h.1, h.2⟩

theorem bounds (h : Ordered low high spans) {span : Span} (hspan : span ∈ spans) :
    low ≤ span.start ∧ span.start ≤ span.stop ∧ span.stop ≤ high := by
  induction spans generalizing low with
  | nil => cases hspan
  | cons first more ih =>
    obtain ⟨hstart, hstop, hmore⟩ := h
    rcases List.mem_cons.mp hspan with rfl | hspan
    · exact ⟨hstart, hstop, hmore.le⟩
    · have := ih hmore hspan
      omega

theorem take (h : Ordered low high spans) (count : Nat) : Ordered low high (spans.take count) := by
  induction spans generalizing low count with
  | nil => simpa using h
  | cons span more ih =>
    cases count with
    | zero => exact h.le
    | succ count => exact ⟨h.1, h.2.1, ih h.2.2 count⟩

theorem pick (h : Ordered low high spans) (scope : Scope) :
    Ordered low high (scope.pick spans) := by
  unfold Scope.pick
  split
  · exact h.take _
  · exact h

/-- A text behind `low` as the gap before the first span, what the span covers, and what follows. -/
theorem cut {span : Span} {rest : Text} (h : Ordered low (low + rest.length) (span :: spans)) :
    ∃ gap covered after, rest = gap ++ (covered ++ after) ∧
      span = ⟨low + gap.length, low + gap.length + covered.length⟩ := by
  obtain ⟨start, stop⟩ := span
  obtain ⟨hstart, hstop, hmore⟩ := h
  have hend := hmore.le
  refine ⟨rest.take (start - low), (rest.drop (start - low)).take (stop - start),
    (rest.drop (start - low)).drop (stop - start), ?_, ?_⟩
  · rw [List.take_append_drop, List.take_append_drop]
  · simp only [List.length_take, List.length_drop, Span.mk.injEq] at hstart hstop hend ⊢
    omega

end Span.Ordered

namespace Matcher

theorem closing?_bounds {text : Text} : ∀ {depth pos stop : Nat},
    closing? depth pos text = some stop → pos < stop ∧ stop ≤ pos + text.length := by
  induction text with
  | nil =>
    intro depth pos stop h
    cases h
  | cons c rest ih =>
    intro depth pos stop h
    have next {depth : Nat} (h : closing? depth (pos + 1) rest = some stop) :
        pos < stop ∧ stop ≤ pos + (c :: rest).length := by
      have := ih h
      rw [List.length_cons]
      omega
    unfold closing? at h
    split at h
    · exact next h
    · split at h
      · split at h
        · exact next h
        · obtain rfl : pos + 1 = stop := by simpa using h
          simp
        · exact next h
      · exact next h

end Matcher

def Settled.Began (P : Nat → Prop) (settled : Settled) : Prop :=
  (∀ thread ∈ settled.ahead, P thread.start) ∧ ∀ thread ∈ settled.accepted, P thread.start

theorem Settled.ofThreads_began {P : Nat → Prop} {steps : Array Step} {here : Cursor}
    {threads : List Thread} (h : ∀ thread ∈ threads, P thread.start) :
    (ofThreads steps here threads).Began P := by
  obtain ⟨hahead, haccepted⟩ := settle_keeps (P := fun thread => P thread.start)
    (Q := fun thread => P thread.start)
    (fun _ ht _ hnext => (Thread.mem_followed hnext).1 ▸ ht)
    (fun _ ht _ hnext => (Thread.mem_waiting hnext).1 ▸ ht)
    (threads.length + 2 * steps.size) (Marks.none steps.size) threads [] h (List.forall_mem_nil _)
  exact ⟨hahead, fun thread ht => (haccepted thread ht).1⟩

def Span.Between (low high : Nat) (span : Span) : Prop :=
  low ≤ span.start ∧ span.start ≤ span.stop ∧ span.stop ≤ high

namespace Automaton

variable {steps : Array Step}

theorem search?_between {here : Cursor} {hit : Match} (h : search? steps here = some hit) :
    hit.span.Between here.pos (here.pos + here.rest.length) := by
  refine searchFrom_keeps
    (I := fun there => here.pos ≤ there.pos ∧
      there.pos + there.rest.length = here.pos + here.rest.length)
    (P := fun there thread => here.pos ≤ thread.start ∧ thread.start ≤ there.pos)
    (M := fun hit => hit.span.Between here.pos (here.pos + here.rest.length))
    (fun hthere => ?_) (fun ht hnext => ?_) (fun ht hnext => ?_) (fun hthere ht _ => ?_) here.rest
    (fun _ _ hthere => ⟨hthere.1, Nat.le_refl _⟩) ⟨Nat.le_refl _, rfl⟩ (List.forall_mem_nil _)
    (fun _ hnone => by cases hnone) hit h
  · obtain ⟨hlow, hlength⟩ := hthere
    refine ⟨Nat.le_succ_of_le hlow, ?_⟩
    rw [← hlength, List.length_cons, Nat.add_right_comm, Nat.add_assoc]
  · rwa [(Thread.mem_followed hnext).1]
  · rw [(Thread.mem_waiting hnext).1]
    exact ⟨ht.1, Nat.le_succ_of_le ht.2⟩
  · exact ⟨ht.1, ht.2, Nat.le_of_add_right_le (Nat.le_of_eq hthere.2)⟩

theorem search?_slots {here : Cursor} {hit : Match} (h : search? steps here = some hit) :
    ∀ slot ∈ hit.slots, hit.span.start ≤ slot.2 ∧ slot.2 ≤ hit.span.stop := by
  refine searchFrom_keeps (I := fun _ => True)
    (P := fun there thread => thread.start ≤ there.pos ∧
      ∀ slot ∈ thread.slots, thread.start ≤ slot.2 ∧ slot.2 ≤ there.pos)
    (M := fun hit => ∀ slot ∈ hit.slots, hit.span.start ≤ slot.2 ∧ slot.2 ≤ hit.span.stop)
    (fun _ => trivial) (fun ht hnext => ?_) (fun ht hnext => ?_) (fun _ ht _ => ht.2) here.rest
    (fun _ _ _ => ⟨Nat.le_refl _, List.forall_mem_nil _⟩) trivial (List.forall_mem_nil _)
    (fun _ hnone => by cases hnone) hit h
  · obtain ⟨hstart, hslots⟩ := ht
    rw [(Thread.mem_followed hnext).1]
    refine ⟨hstart, fun slot hslot => ?_⟩
    rcases Thread.slots_of_mem_followed hnext slot hslot with hslot | hhere
    · exact hslots slot hslot
    · rw [hhere]
      exact ⟨hstart, Nat.le_refl _⟩
  · obtain ⟨hstart, hslots⟩ := ht
    rw [(Thread.mem_waiting hnext).1, Thread.slots_of_mem_waiting hnext]
    refine ⟨Nat.le_succ_of_le hstart, fun slot hslot => ?_⟩
    obtain ⟨hlow, hhigh⟩ := hslots slot hslot
    exact ⟨hlow, Nat.le_succ_of_le hhigh⟩

theorem isSome_searchFrom (rest : Text) : ∀ (best : Match) (threads : List Thread) (pos : Nat)
    (prev : Option Char), (searchFrom steps (some best) threads pos prev rest).isSome = true := by
  have kept (settled : Settled) (pos : Nat) (best : Match) :
      ∃ hit, (settled.accepted.map (Match.ofThread pos)).or (some best) = some hit := by
    cases settled.accepted <;> exact ⟨_, rfl⟩
  induction rest with
  | nil =>
    intro best threads pos prev
    obtain ⟨hit, hhit⟩ := kept (Settled.ofThreads steps ⟨pos, prev, []⟩ threads) pos best
    simp [searchFrom, hhit]
  | cons c rest ih =>
    intro best threads pos prev
    obtain ⟨hit, hhit⟩ := kept (Settled.ofThreads steps ⟨pos, prev, c :: rest⟩ threads) pos best
    simp only [searchFrom, Option.isNone_some, Bool.false_eq_true, if_false, hhit]
    split
    · rfl
    · exact ih hit _ _ _

/-- As long as nothing is accepted, looking for a match and looking whether there is one go through the
same threads. -/
theorem acceptsFrom_eq (rest : Text) : ∀ (threads : List Thread) (pos : Nat) (prev : Option Char),
    acceptsFrom steps threads pos prev rest =
      (searchFrom steps none threads pos prev rest).isSome := by
  induction rest with
  | nil =>
    intro threads pos prev
    simp [acceptsFrom, searchFrom]
  | cons c rest ih =>
    intro threads pos prev
    rw [acceptsFrom, searchFrom]
    simp only [Option.isNone_none, if_true, Option.or_none]
    cases (Settled.ofThreads steps ⟨pos, prev, c :: rest⟩ (threads ++ [⟨0, pos, []⟩])).accepted with
    | none => simp [ih]
    | some thread =>
      simp only [Option.isSome_some, Bool.true_or, Option.map_some, Bool.and_true]
      split
      · rfl
      · exact (isSome_searchFrom rest _ _ _ _).symm

theorem accepts_eq (here : Cursor) : accepts steps here = (search? steps here).isSome :=
  acceptsFrom_eq here.rest [] here.pos here.prev

end Automaton

/-- What a sweep needs of its probe: a hit lies between the cursor and the place where the sweep goes
on, which lies in the text. -/
def Probe.Forward {α : Type} (extent : α → Span) (here : Cursor) : Probe α → Prop
  | .miss => True
  | .halt => True
  | .hit found resume =>
    (extent found).Between here.pos resume ∧ resume ≤ here.pos + here.rest.length

section

variable {α : Type} {probe : Bool → Cursor → Probe α}

theorem sweepFrom_ordered {extent : α → Span}
    (h : ∀ behind here, (probe behind here).Forward extent here) (rest : Text) :
    ∀ (skip pos : Nat) (behind : Bool) (prev : Option Char), skip ≤ rest.length →
      Span.Ordered (pos + skip) (pos + rest.length)
        ((sweepFrom probe skip behind pos prev rest).map extent) := by
  induction rest with
  | nil =>
    intro skip pos behind prev hskip
    obtain rfl := Nat.le_zero.mp hskip
    have hhere := h behind ⟨pos, prev, []⟩
    rw [sweepFrom]
    split
    next found resume hp =>
      rw [hp] at hhere
      obtain ⟨⟨hstart, hstop, hresume⟩, hend⟩ := hhere
      exact ⟨hstart, hstop, Nat.le_trans hresume hend⟩
    next => exact Nat.le_refl pos
    next => exact Nat.le_refl pos
  | cons c rest ih =>
    intro skip pos behind prev hskip
    have hlength : pos + (c :: rest).length = pos + 1 + rest.length := by
      rw [List.length_cons]
      omega
    rw [hlength]
    cases skip with
    | succ skip =>
      have hnext : pos + (skip + 1) = pos + 1 + skip := by omega
      rw [hnext]
      exact ih skip (pos + 1) behind (some c) (Nat.le_of_succ_le_succ hskip)
    | zero =>
      have hhere := h behind ⟨pos, prev, c :: rest⟩
      have hrest := ih 0 (pos + 1) false (some c) (Nat.zero_le _)
      rw [sweepFrom]
      split
      next => exact hrest.from_le (Nat.le_succ pos)
      next => exact Nat.le_trans (Nat.le_succ pos) (Nat.le_add_right (pos + 1) rest.length)
      next found resume hp =>
        rw [hp] at hhere
        obtain ⟨⟨hstart, hstop, hresume⟩, hend⟩ := hhere
        split
        next hempty =>
          have hhit : (extent found).stop ≤ pos + 1 := by omega
          exact ⟨hstart, hstop, hrest.from_le hhit⟩
        next hlater =>
          rw [hlength] at hend
          have hmore := ih (resume - pos - 1) (pos + 1) true (some c) (by omega)
          have hgo : pos + 1 + (resume - pos - 1) = resume := by omega
          rw [hgo] at hmore
          exact ⟨hstart, hstop, hmore.from_le hresume⟩

theorem exists_hit_of_mem_sweepFrom {found : α} (rest : Text) :
    ∀ {skip pos : Nat} {behind : Bool} {prev : Option Char},
      found ∈ sweepFrom probe skip behind pos prev rest →
      ∃ behind here resume, probe behind here = .hit found resume := by
  induction rest with
  | nil =>
    intro skip pos behind prev hfound
    cases skip with
    | succ skip => cases hfound
    | zero =>
      rw [sweepFrom] at hfound
      split at hfound
      next resume hp => exact ⟨_, _, _, List.mem_singleton.mp hfound ▸ hp⟩
      all_goals cases hfound
  | cons c rest ih =>
    intro skip pos behind prev hfound
    cases skip with
    | succ skip => exact ih hfound
    | zero =>
      rw [sweepFrom] at hfound
      split at hfound
      next => exact ih hfound
      next => cases hfound
      next resume hp =>
        split at hfound
        all_goals
          rcases List.mem_cons.mp hfound with rfl | hfound
          · exact ⟨_, _, _, hp⟩
          · exact ih hfound

end

namespace Matcher

theorem textProbe_forward (needle : Text) (accepts : Cursor → Text → Bool) (behind : Bool)
    (here : Cursor) : (textProbe needle accepts behind here).Forward id here := by
  unfold textProbe
  split
  next h =>
    simp only [Bool.and_eq_true, List.isPrefixOf_iff_prefix] at h
    have hlength := h.1.2.length_le
    refine ⟨⟨Nat.le_refl _, Nat.le_add_right _ _, Nat.le_refl _⟩, ?_⟩
    omega
  next => trivial

theorem bracedProbe_forward (steps : Array Step) (behind : Bool) (here : Cursor) :
    (bracedProbe steps behind here).Forward id here := by
  unfold bracedProbe
  split
  next => trivial
  next found hsearch =>
    obtain ⟨hstart, hstop, hend⟩ := Automaton.search?_between hsearch
    dsimp only
    split
    next => trivial
    next stop hclose =>
      obtain ⟨hopen, hclosed⟩ := closing?_bounds hclose
      rw [List.length_drop] at hclosed
      refine ⟨⟨hstart, Nat.le_of_lt hopen, Nat.le_max_left _ _⟩, ?_⟩
      omega

theorem probe_forward (steps : Array Step) (behind : Bool) (here : Cursor) :
    (Automaton.probe steps behind here).Forward (·.span) here := by
  unfold Automaton.probe
  split
  next => trivial
  next found hsearch =>
    obtain ⟨hstart, hstop, hend⟩ := Automaton.search?_between hsearch
    split
    next => trivial
    next => exact ⟨⟨hstart, hstop, Nat.le_refl _⟩, hend⟩

theorem sweep_ordered {α : Type} {extent : α → Span} {probe : Bool → Cursor → Probe α}
    (h : ∀ behind here, (probe behind here).Forward extent here) (text : Text) :
    Span.Ordered 0 text.length ((sweep probe text).map extent) := by
  have hswept := sweepFrom_ordered h text 0 0 false none (Nat.zero_le _)
  simp only [Nat.zero_add] at hswept
  exact hswept

/-- The spans of a matcher lie in the text, ascend and do not overlap. -/
theorem spans_ordered (matcher : Matcher) (text : Text) :
    Span.Ordered 0 text.length (matcher.spans text) := by
  have swept {probe : Bool → Cursor → Probe Span}
      (h : ∀ behind here, (probe behind here).Forward id here) :
      Span.Ordered 0 text.length (sweep probe text) := by
    simpa using sweep_ordered h text
  cases matcher with
  | literal needle => exact swept (textProbe_forward needle _)
  | regex expr => exact sweep_ordered (probe_forward _) text
  | lines block => exact swept (textProbe_forward (blockText block) _)
  | braced header => exact swept (bracedProbe_forward _)

theorem lt_of_textProbe {needle : Text} {accepts : Cursor → Text → Bool} {behind : Bool}
    {here : Cursor} {span : Span} {resume : Nat}
    (h : textProbe needle accepts behind here = .hit span resume) : span.start < span.stop := by
  unfold textProbe at h
  split at h
  next hfound =>
    obtain ⟨rfl, -⟩ := Probe.hit.inj h
    have hne : needle ≠ [] := by
      rintro rfl
      simp at hfound
    have := List.length_pos_iff.mpr hne
    simp only
    omega
  next => cases h

theorem lt_of_bracedProbe {steps : Array Step} {behind : Bool} {here : Cursor} {span : Span}
    {resume : Nat} (h : bracedProbe steps behind here = .hit span resume) :
    span.start < span.stop := by
  unfold bracedProbe at h
  split at h
  next => cases h
  next found hsearch =>
    dsimp only at h
    split at h
    next => cases h
    next stop hclose =>
      obtain ⟨rfl, -⟩ := Probe.hit.inj h
      exact (closing?_bounds hclose).1

def isRegex : Matcher → Bool
  | regex _ => true
  | _ => false

theorem lt_of_mem_spans {matcher : Matcher} (h : matcher.isRegex = false) {text : Text} {span : Span}
    (hspan : span ∈ matcher.spans text) : span.start < span.stop := by
  cases matcher with
  | literal needle =>
    obtain ⟨behind, here, resume, hp⟩ := exists_hit_of_mem_sweepFrom text hspan
    exact lt_of_textProbe hp
  | regex expr => cases h
  | lines block =>
    obtain ⟨behind, here, resume, hp⟩ := exists_hit_of_mem_sweepFrom text hspan
    exact lt_of_textProbe hp
  | braced header =>
    obtain ⟨behind, here, resume, hp⟩ := exists_hit_of_mem_sweepFrom text hspan
    exact lt_of_bracedProbe hp

theorem head?_sweepFrom_literal {needle : Text} (hne : needle ≠ []) (text : Text) :
    ∀ (behind : Bool) (pos : Nat) (prev : Option Char),
      (sweepFrom (literalProbe needle) 0 behind pos prev text).head? =
        (Text.splitBefore? needle text).map fun cut =>
          ⟨pos + cut.1.length, pos + cut.1.length + needle.length⟩ := by
  have hempty : needle.isEmpty = false := by simpa using hne
  induction text with
  | nil => simp [sweepFrom, literalProbe, textProbe, Text.splitBefore?, hne]
  | cons c rest ih =>
    intro behind pos prev
    rw [sweepFrom, literalProbe, textProbe, Text.splitBefore?, hempty]
    cases hfound : needle.isPrefixOf (c :: rest) with
    | true =>
      simp only [Bool.not_false, Bool.and_true, if_true, Option.map_some,
        List.length_nil, Nat.add_zero]
      split <;> rfl
    | false =>
      have hnext (n : Nat) : pos + 1 + n = pos + (n + 1) := by omega
      simp only [Bool.and_false, Bool.false_and, Bool.false_eq_true, if_false, Option.map_map]
      rw [← literalProbe, ih false (pos + 1) (some c)]
      simp only [Function.comp_def, List.length_cons, hnext]

theorem sweep_text_nil (accepts : Cursor → Text → Bool) (text : Text) :
    sweep (textProbe [] accepts) text = [] := by
  refine List.eq_nil_iff_forall_not_mem.mpr fun span hspan => ?_
  obtain ⟨behind, here, resume, hp⟩ := exists_hit_of_mem_sweepFrom text hspan
  cases hp

theorem head?_sweepFrom_probe (steps : Array Step) (pos : Nat) (prev : Option Char) (text : Text) :
    (sweepFrom (Automaton.probe steps) 0 false pos prev text).head? =
      Automaton.search? steps ⟨pos, prev, text⟩ := by
  cases text with
  | nil =>
    rw [sweepFrom, Automaton.probe]
    cases Automaton.search? steps ⟨pos, prev, []⟩ <;> rfl
  | cons c rest =>
    rw [sweepFrom, Automaton.probe]
    cases Automaton.search? steps ⟨pos, prev, c :: rest⟩ with
    | none => rfl
    | some found =>
      simp only [Bool.false_and, Bool.false_eq_true, if_false]
      split <;> rfl

theorem find?_eq_head? (matcher : Matcher) (text : Text) :
    matcher.find? text = (matcher.spans text).head? := by
  cases matcher with
  | literal needle =>
    by_cases hne : needle = []
    · subst hne
      rw [spans, literalProbe, sweep_text_nil]
      rfl
    · rw [find?, spans, sweep, head?_sweepFrom_literal hne]
      simp [hne]
  | regex expr =>
    rw [find?, spans, List.head?_map]
    exact congrArg _ (head?_sweepFrom_probe expr.pattern.automaton 0 none text).symm
  | lines block => rfl
  | braced header => rfl

theorem isMatch_eq (matcher : Matcher) (text : Text) :
    matcher.isMatch text = (matcher.find? text).isSome := by
  cases matcher with
  | regex expr =>
    rw [isMatch, find?, Option.isSome_map]
    exact Automaton.accepts_eq (Cursor.start text)
  | literal needle => rfl
  | lines block => rfl
  | braced header => rfl

end Matcher

end Recast
