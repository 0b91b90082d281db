import Mathlib.Data.List.Pairwise
import Recast.Pattern.Matching

/-! Single moves through an automaton, and the ways to acceptance that they make up. Nothing is said of
preference here, and of slots only which places they hold. Following the threads of a place replaces each
of them by the threads behind its moves, until it waits behind the next character; a state is followed
once. -/

namespace Recast

/-- Where a step leads from a place: to a state at the same place, or behind the next character. -/
def Step.Leads : Step → Cursor → Nat → Cursor → Prop
  | pass onward, here, next, there => next = onward ∧ there = here
  | read members onward, here, next, there => ∃ c rest, here.rest = c :: rest ∧
    members.has c = true ∧ next = onward ∧ there = ⟨here.pos + 1, some c, rest⟩
  | check condition onward, here, next, there =>
    condition.holds here = true ∧ next = onward ∧ there = here
  | note _ onward, here, next, there => next = onward ∧ there = here
  | fork first second, here, next, there => (next = first ∨ next = second) ∧ there = here
  | accept, _, _, _ => False

inductive Accepts (steps : Array Step) : Nat → Nat → Cursor → Cursor → Prop
  | accept {state : Nat} {here : Cursor} (hs : steps[state]? = some .accept) :
    Accepts steps 0 state here here
  | move {n state next : Nat} {here there last : Cursor} {step : Step}
    (hs : steps[state]? = some step) (hlead : step.Leads here next there)
    (way : Accepts steps n next there last) : Accepts steps (n + 1) state here last

namespace Accepts

variable {steps : Array Step} {n state : Nat} {here last : Cursor} {step : Step}

theorem of_accept (hs : steps[state]? = some .accept) (h : Accepts steps n state here last) :
    last = here := by
  cases h with
  | accept => rfl
  | move hs' hlead way =>
    rw [hs] at hs'
    cases hs'
    exact hlead.elim

theorem of_step (hs : steps[state]? = some step) (hne : step ≠ .accept)
    (h : Accepts steps n state here last) :
    ∃ m next there, n = m + 1 ∧ step.Leads here next there ∧ Accepts steps m next there last := by
  cases h with
  | accept hs' =>
    rw [hs] at hs'
    exact absurd (Option.some.inj hs') hne
  | move hs' hlead way =>
    rw [hs] at hs'
    cases hs'
    exact ⟨_, _, _, rfl, hlead, way⟩

end Accepts

namespace Thread

variable {steps : Array Step} {here : Cursor} {thread next : Thread}

def followed (steps : Array Step) (here : Cursor) (thread : Thread) : List Thread :=
  match steps[thread.state]? with
  | some (.pass next) => [thread.moved next]
  | some (.check condition next) => if condition.holds here then [thread.moved next] else []
  | some (.note slot next) => [⟨next, thread.start, (slot, here.pos) :: thread.slots⟩]
  | some (.fork first second) => [thread.moved first, thread.moved second]
  | _ => []

def waiting (steps : Array Step) (here : Cursor) (thread : Thread) : List Thread :=
  match steps[thread.state]? with
  | some (.read members next) =>
    if here.rest.head?.any members.has then [thread.moved next] else []
  | _ => []

theorem mem_followed (h : next ∈ thread.followed steps here) :
    next.start = thread.start ∧
      ∃ step, steps[thread.state]? = some step ∧ step.Leads here next.state here := by
  unfold followed at h
  split at h
  next onward hs =>
    obtain rfl := List.mem_singleton.mp h
    exact ⟨rfl, _, hs, rfl, rfl⟩
  next condition onward hs =>
    split at h
    next hc =>
      obtain rfl := List.mem_singleton.mp h
      exact ⟨rfl, _, hs, hc, rfl, rfl⟩
    next => cases h
  next slot onward hs =>
    obtain rfl := List.mem_singleton.mp h
    exact ⟨rfl, _, hs, rfl, rfl⟩
  next first second hs =>
    rcases List.mem_cons.mp h with rfl | h
    · exact ⟨rfl, _, hs, .inl rfl, rfl⟩
    · obtain rfl := List.mem_singleton.mp h
      exact ⟨rfl, _, hs, .inr rfl, rfl⟩
  next => cases h

theorem mem_waiting (h : next ∈ thread.waiting steps here) :
    next.start = thread.start ∧ ∃ c rest, here.rest = c :: rest ∧
      ∃ step, steps[thread.state]? = some step ∧
        step.Leads here next.state ⟨here.pos + 1, some c, rest⟩ := by
  unfold waiting at h
  split at h
  next members onward hs =>
    split at h
    next hc =>
      obtain rfl := List.mem_singleton.mp h
      obtain ⟨c, hhead, hmem⟩ := (Option.any_eq_true _ _).mp hc
      obtain ⟨rest, hrest⟩ := List.head?_eq_some_iff.mp hhead
      exact ⟨rfl, c, rest, hrest, _, hs, c, rest, hrest, hmem, rfl, rfl⟩
    next => cases h
  next => cases h

theorem slots_of_mem_followed (h : next ∈ thread.followed steps here) :
    ∀ slot ∈ next.slots, slot ∈ thread.slots ∨ slot.2 = here.pos := by
  intro slot hslot
  unfold followed at h
  split at h
  next =>
    obtain rfl := List.mem_singleton.mp h
    exact .inl hslot
  next =>
    split at h
    next =>
      obtain rfl := List.mem_singleton.mp h
      exact .inl hslot
    next => cases h
  next =>
    obtain rfl := List.mem_singleton.mp h
    rcases List.mem_cons.mp hslot with rfl | hslot
    · exact .inr rfl
    · exact .inl hslot
  next =>
    rcases List.mem_cons.mp h with rfl | h
    · exact .inl hslot
    · obtain rfl := List.mem_singleton.mp h
      exact .inl hslot
  next => cases h

theorem slots_of_mem_waiting (h : next ∈ thread.waiting steps here) :
    next.slots = thread.slots := by
  unfold waiting at h
  split at h
  next =>
    split at h
    next => rw [List.mem_singleton.mp h]; rfl
    next => cases h
  next => cases h

theorem exists_of_leads {step : Step} (hs : steps[thread.state]? = some step) {state : Nat}
    {there : Cursor} (h : step.Leads here state there) :
    (there = here ∧ ∃ next ∈ thread.followed steps here, next.state = state) ∨
      ∃ c rest, here.rest = c :: rest ∧ there = ⟨here.pos + 1, some c, rest⟩ ∧
        ∃ next ∈ thread.waiting steps here, next.state = state := by
  cases step with
  | pass onward =>
    obtain ⟨hnext, hthere⟩ := h
    exact .inl ⟨hthere, thread.moved onward, by simp [followed, hs], hnext.symm⟩
  | read members onward =>
    obtain ⟨c, rest, hrest, hc, hnext, hthere⟩ := h
    exact .inr ⟨c, rest, hrest, hthere, thread.moved onward, by simp [waiting, hs, hrest, hc],
      hnext.symm⟩
  | check condition onward =>
    obtain ⟨hc, hnext, hthere⟩ := h
    exact .inl ⟨hthere, thread.moved onward, by simp [followed, hs, hc], hnext.symm⟩
  | note slot onward =>
    obtain ⟨hnext, hthere⟩ := h
    exact .inl ⟨hthere, ⟨onward, thread.start, (slot, here.pos) :: thread.slots⟩,
      by simp [followed, hs], hnext.symm⟩
  | fork first second =>
    obtain ⟨hnext | hnext, hthere⟩ := h
    · exact .inl ⟨hthere, thread.moved first, by simp [followed, hs], hnext.symm⟩
    · exact .inl ⟨hthere, thread.moved second, by simp [followed, hs], hnext.symm⟩
  | accept => exact h.elim

/-- The way of a thread that is not accepted here goes on with a thread that takes its place. -/
theorem exists_of_accepts {n : Nat} {last : Cursor} (hne : steps[thread.state]? ≠ some .accept)
    (h : Accepts steps n thread.state here last) :
    ∃ m < n, (∃ next ∈ thread.followed steps here, Accepts steps m next.state here last) ∨
      ∃ c rest, here.rest = c :: rest ∧ ∃ next ∈ thread.waiting steps here,
        Accepts steps m next.state ⟨here.pos + 1, some c, rest⟩ last := by
  cases h with
  | accept hs => exact absurd hs hne
  | @move m _ state _ there _ step hs hlead way =>
    refine ⟨m, Nat.lt_succ_self m, ?_⟩
    rcases exists_of_leads hs hlead with ⟨rfl, next, hnext, rfl⟩ |
      ⟨c, rest, hrest, rfl, next, hnext, rfl⟩
    · exact .inl ⟨next, hnext, way⟩
    · exact .inr ⟨c, rest, hrest, next, hnext, way⟩

theorem length_followed_le (steps : Array Step) (here : Cursor) (thread : Thread) :
    (thread.followed steps here).length ≤ 2 := by
  unfold followed
  split <;> try split
  all_goals simp

end Thread

namespace Settled

variable {steps : Array Step} {here : Cursor}

/-- What settling does with the first thread. -/
theorem settle_cons (fuel : Nat) (seen : Marks) (thread : Thread) (more ahead : List Thread) :
    settle steps here (fuel + 1) seen (thread :: more) ahead =
      if seen.has thread.state then settle steps here fuel seen more ahead
      else if steps[thread.state]? = some .accept then ⟨ahead.reverse, some thread⟩
      else settle steps here fuel (seen.insert thread.state) (thread.followed steps here ++ more)
        (thread.waiting steps here ++ ahead) := by
  rw [settle]
  split
  · rfl
  · cases hs : steps[thread.state]? with
    | none => simp [Thread.followed, Thread.waiting, hs]
    | some step => cases step <;> simp [Thread.followed, Thread.waiting, hs] <;> split <;> rfl

/-- What every move keeps holds of the threads that wait in the end, and of the one accepted. -/
theorem settle_keeps {P Q : Thread → Prop}
    (hfollow : ∀ thread, P thread → ∀ next ∈ thread.followed steps here, P next)
    (hwait : ∀ thread, P thread → ∀ next ∈ thread.waiting steps here, Q next) (fuel : Nat) :
    ∀ (seen : Marks) (stack ahead : List Thread), (∀ thread ∈ stack, P thread) →
      (∀ thread ∈ ahead, Q thread) →
      (∀ thread ∈ (settle steps here fuel seen stack ahead).ahead, Q thread) ∧
        ∀ thread ∈ (settle steps here fuel seen stack ahead).accepted,
          P thread ∧ steps[thread.state]? = some .accept := by
  induction fuel with
  | zero =>
    exact fun _ _ _ _ hahead => ⟨fun thread ht => hahead thread (List.mem_reverse.mp ht), nofun⟩
  | succ fuel ih =>
    intro seen stack ahead hstack hahead
    cases stack with
    | nil => exact ⟨fun thread ht => hahead thread (List.mem_reverse.mp ht), nofun⟩
    | cons thread more =>
      obtain ⟨hthread, hmore⟩ := List.forall_mem_cons.mp hstack
      rw [settle_cons]
      split
      · exact ih seen more ahead hmore hahead
      · split
        next hs =>
          refine ⟨fun other ht => hahead other (List.mem_reverse.mp ht), fun found hf => ?_⟩
          cases hf
          exact ⟨hthread, hs⟩
        next =>
          refine ih _ _ _ (fun next hnext => ?_) (fun next hnext => ?_)
          · exact (List.mem_append.mp hnext).elim (hfollow thread hthread next) (hmore next)
          · exact (List.mem_append.mp hnext).elim (hwait thread hthread next) (hahead next)

theorem mem_settle_ahead {thread : Thread} (fuel : Nat) : ∀ {seen : Marks}
    {stack ahead : List Thread}, thread ∈ ahead →
      thread ∈ (settle steps here fuel seen stack ahead).ahead := by
  induction fuel with
  | zero => exact fun h => List.mem_reverse.mpr h
  | succ fuel ih =>
    intro seen stack ahead h
    cases stack with
    | nil => exact List.mem_reverse.mpr h
    | cons first more =>
      rw [settle_cons]
      split
      · exact ih h
      · split
        · exact List.mem_reverse.mpr h
        · exact ih (List.mem_append_right _ h)

def Ascending (threads : List Thread) : Prop :=
  threads.Pairwise fun first second => first.start ≤ second.start

theorem Ascending.replace {before new after : List Thread} {thread : Thread}
    (h : Ascending (before ++ thread :: after)) (hnew : ∀ next ∈ new, next.start = thread.start) :
    Ascending (before ++ (new ++ after)) := by
  simp only [Ascending, List.pairwise_append, List.pairwise_cons, List.mem_cons, List.mem_append]
    at h ⊢
  obtain ⟨hbefore, ⟨hthread, hafter⟩, hcross⟩ := h
  refine ⟨hbefore, ⟨List.pairwise_of_forall_mem_list fun first hfirst second hsecond => ?_, hafter,
    fun first hfirst second hsecond => ?_⟩, fun first hfirst second hsecond => ?_⟩
  · exact Nat.le_of_eq ((hnew first hfirst).trans (hnew second hsecond).symm)
  · rw [hnew first hfirst]
    exact hthread second hsecond
  · rcases hsecond with hsecond | hsecond
    · rw [hnew second hsecond]
      exact hcross first hfirst thread (.inl rfl)
    · exact hcross first hfirst second (.inr hsecond)

/-- The threads that wait in the end are in order, and none of them began behind the one accepted. -/
theorem settle_ascending (fuel : Nat) : ∀ {seen : Marks} {stack ahead : List Thread},
    Ascending (ahead.reverse ++ stack) →
      Ascending ((settle steps here fuel seen stack ahead).ahead ++
        (settle steps here fuel seen stack ahead).accepted.toList) := by
  have done {stack ahead : List Thread} (h : Ascending (ahead.reverse ++ stack)) :
      Ascending (ahead.reverse ++ []) :=
    h.sublist ((List.nil_sublist stack).append_left _)
  induction fuel with
  | zero => exact done
  | succ fuel ih =>
    intro seen stack ahead h
    cases stack with
    | nil => exact h
    | cons thread more =>
      rw [settle_cons]
      split
      · exact ih (h.replace (List.forall_mem_nil _))
      · split
        · exact h.sublist (List.Sublist.append_left (by simp) _)
        · refine ih ?_
          rw [List.reverse_append, List.append_assoc, ← List.append_assoc _ _ more]
          refine h.replace fun next hnext => ?_
          rcases List.mem_append.mp hnext with hnext | hnext
          · exact (Thread.mem_waiting (List.mem_reverse.mp hnext)).1
          · exact (Thread.mem_followed hnext).1

end Settled

namespace Automaton

variable {steps : Array Step}

def begun (best : Option Match) (threads : List Thread) (pos : Nat) : List Thread :=
  if best.isNone then threads ++ [⟨0, pos, []⟩] else threads

theorem mem_begun {best : Option Match} {threads : List Thread} {pos : Nat} {thread : Thread} :
    thread ∈ begun best threads pos ↔ thread ∈ threads ∨ best = none ∧ thread = ⟨0, pos, []⟩ := by
  cases best <;> simp [begun]

theorem searchFrom_cons (best : Option Match) (threads : List Thread) (pos : Nat)
    (prev : Option Char) (c : Char) (rest : Text) :
    searchFrom steps best threads pos prev (c :: rest) =
      let settled := Settled.ofThreads steps ⟨pos, prev, c :: rest⟩ (begun best threads pos)
      let best := (settled.accepted.map (Match.ofThread pos)).or best
      if settled.ahead.isEmpty && best.isSome then best
      else searchFrom steps best settled.ahead (pos + 1) (some c) rest :=
  rfl

theorem begun_ascending (best : Option Match) {threads : List Thread} {pos : Nat}
    (h : Settled.Ascending threads) (hpos : ∀ thread ∈ threads, thread.start ≤ pos) :
    Settled.Ascending (begun best threads pos) := by
  unfold begun
  split
  · refine List.pairwise_append.mpr ⟨h, List.pairwise_singleton _ _, fun thread ht last hlast => ?_⟩
    rw [List.mem_singleton.mp hlast]
    exact hpos thread ht
  · exact h

/-- What the threads that begin have, and what every move keeps, makes every match what it is. -/
theorem searchFrom_keeps {I : Cursor → Prop} {P : Cursor → Thread → Prop} {M : Match → Prop}
    (hnext : ∀ {pos prev c rest}, I ⟨pos, prev, c :: rest⟩ → I ⟨pos + 1, some c, rest⟩)
    (hfollow : ∀ {here thread next}, P here thread → next ∈ thread.followed steps here → P here next)
    (hwait : ∀ {pos prev c rest thread next}, P ⟨pos, prev, c :: rest⟩ thread →
      next ∈ thread.waiting steps ⟨pos, prev, c :: rest⟩ → P ⟨pos + 1, some c, rest⟩ next)
    (haccept : ∀ {here thread}, I here → P here thread → steps[thread.state]? = some .accept →
      M (Match.ofThread here.pos thread)) (rest : Text) :
    ∀ {best : Option Match} {threads : List Thread} {pos : Nat} {prev : Option Char},
      (best = none → ∀ {here : Cursor}, I here → P here ⟨0, here.pos, []⟩) → I ⟨pos, prev, rest⟩ →
      (∀ thread ∈ threads, P ⟨pos, prev, rest⟩ thread) → (∀ hit ∈ best, M hit) →
      ∀ hit ∈ searchFrom steps best threads pos prev rest, M hit := by
  -- What one place adds to the best match so far.
  have found {best : Option Match} {threads : List Thread} {here : Cursor} {Q : Thread → Prop}
      (hwait : ∀ thread, P here thread → ∀ next ∈ thread.waiting steps here, Q next)
      (hbegin : best = none → P here ⟨0, here.pos, []⟩) (hhere : I here)
      (hthreads : ∀ thread ∈ threads, P here thread) (hbest : ∀ hit ∈ best, M hit) :
      (∀ thread ∈ (Settled.ofThreads steps here (begun best threads here.pos)).ahead, Q thread) ∧
        ∀ hit ∈ ((Settled.ofThreads steps here (begun best threads here.pos)).accepted.map
          (Match.ofThread here.pos)).or best, M hit := by
    have hbegun : ∀ thread ∈ begun best threads here.pos, P here thread := by
      intro thread ht
      rcases mem_begun.mp ht with ht | ⟨hnone, rfl⟩
      · exact hthreads thread ht
      · exact hbegin hnone
    obtain ⟨hahead, haccepted⟩ := Settled.settle_keeps (P := P here)
      (fun thread ht next hnext => hfollow ht hnext) hwait
      ((begun best threads here.pos).length + 2 * steps.size) (Marks.none steps.size) _ [] hbegun
      (List.forall_mem_nil _)
    refine ⟨hahead, fun hit hhit => ?_⟩
    rcases Option.or_eq_some_iff.mp hhit with hnew | ⟨-, hbefore⟩
    · obtain ⟨thread, ht, rfl⟩ := Option.map_eq_some_iff.mp hnew
      obtain ⟨hthread, hs⟩ := haccepted thread ht
      exact haccept hhere hthread hs
    · exact hbest hit hbefore
  induction rest with
  | nil =>
    intro best threads pos prev hbegin hhere hthreads hbest hit hhit
    have hempty {thread next : Thread} (h : next ∈ thread.waiting steps ⟨pos, prev, []⟩) : False := by
      obtain ⟨-, c, rest, hrest, -⟩ := Thread.mem_waiting h
      cases hrest
    exact (found (Q := fun _ => True) (fun _ _ _ hw => (hempty hw).elim)
      (fun hnone => hbegin hnone hhere) hhere hthreads hbest).2 hit hhit
  | cons c rest ih =>
    intro best threads pos prev hbegin hhere hthreads hbest hit hhit
    obtain ⟨hahead, haccepted⟩ := found (fun _ ht _ hw => hwait ht hw)
      (fun hnone => hbegin hnone hhere) hhere hthreads hbest
    rw [searchFrom_cons] at hhit
    dsimp only at hhit
    split at hhit
    · exact haccepted hit hhit
    · refine ih (fun hnone => hbegin ?_) (hnext hhere) hahead haccepted hit hhit
      exact (Option.or_eq_none_iff.mp hnone).2

end Automaton

end Recast
