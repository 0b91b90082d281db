import Recast.Proofs.Pattern.Bridges
import Recast.Proofs.Pattern.Search
import Recast.Proofs.Spans

/-! A search finds the leftmost place at which the pattern matches, for every pattern. Every thread goes on
a way from where it began, so what is accepted is a match. The other way round, a thread that comes to
acceptance is only dropped for another one that does, sooner and not begun later: a state is entered
once, by the first of its threads, and the threads are in the order in which they began. -/

namespace Recast

namespace Marks

theorem has_of_has_insert {marks : Marks} {added state : Nat}
    (h : (marks.insert added).has state = true) : marks.has state = true ∨ state = added := by
  by_cases hs : added = state
  · exact .inr hs.symm
  · refine .inl ?_
    simpa [insert, has, Array.getD_eq_getD_getElem?, Array.getElem?_setIfInBounds, hs] using h

end Marks

variable {steps : Array Step} {here : Cursor} {bound : Nat}

/-- The thread began by a place and comes to acceptance in so many moves. -/
def Thread.Lives (steps : Array Step) (bound : Nat) (here : Cursor) (n : Nat) (thread : Thread) :
    Prop :=
  thread.start ≤ bound ∧ ∃ last, Accepts steps n thread.state here last

def Thread.LivesOn (steps : Array Step) (bound : Nat) (here : Cursor) (thread : Thread) : Prop :=
  ∃ c rest n, here.rest = c :: rest ∧ thread.Lives steps bound ⟨here.pos + 1, some c, rest⟩ n

/-- A state that was entered comes to acceptance later than a thread that is still to be followed. -/
def Sooner (steps : Array Step) (bound : Nat) (here : Cursor) (seen : Marks) (stack : List Thread) :
    Prop :=
  ∀ {n state last}, seen.has state = true → Accepts steps n state here last →
    ∃ m < n, ∃ thread ∈ stack, thread.Lives steps bound here m

namespace Sooner

variable {seen : Marks} {thread : Thread} {more : List Thread}

theorem empty (stack : List Thread) :
    Sooner steps bound here (Marks.none steps.size) stack := by
  intro n state last hseen
  simp at hseen

theorem drop (h : Sooner steps bound here seen (thread :: more))
    (hseen : seen.has thread.state = true) : Sooner steps bound here seen more := by
  intro n
  induction n using Nat.strongRecOn with
  | ind n ih =>
    intro state last hstate haccepts
    obtain ⟨m, hm, other, hother, hlives⟩ := h hstate haccepts
    rcases List.mem_cons.mp hother with rfl | hother
    · obtain ⟨-, last', haccepts'⟩ := hlives
      obtain ⟨k, hk, hmore⟩ := ih m hm hseen haccepts'
      exact ⟨k, Nat.lt_trans hk hm, hmore⟩
    · exact ⟨m, hm, other, hother, hlives⟩

/-- A thread that is followed passes its way on, if no thread that waits is on it. -/
theorem lives_followed (hs : steps[thread.state]? ≠ some .accept) (hstart : thread.start ≤ bound)
    (hwait : ∀ next ∈ thread.waiting steps here, ¬ next.LivesOn steps bound here) {n : Nat}
    {last : Cursor} (h : Accepts steps n thread.state here last) :
    ∃ m < n, ∃ next ∈ thread.followed steps here, next.Lives steps bound here m := by
  obtain ⟨m, hm, ⟨next, hnext, hway⟩ | ⟨c, rest, hrest, next, hnext, hway⟩⟩ :=
    Thread.exists_of_accepts hs h
  · exact ⟨m, hm, next, hnext, (Thread.mem_followed hnext).1 ▸ hstart, last, hway⟩
  · exact absurd ⟨c, rest, m, hrest, (Thread.mem_waiting hnext).1 ▸ hstart, last, hway⟩
      (hwait next hnext)

theorem mem_followed_append (hs : steps[thread.state]? ≠ some .accept)
    (hstart : thread.start ≤ bound)
    (hwait : ∀ next ∈ thread.waiting steps here, ¬ next.LivesOn steps bound here) {n : Nat}
    {other : Thread} (hother : other ∈ thread :: more) (h : other.Lives steps bound here n) :
    ∃ m ≤ n, ∃ next ∈ thread.followed steps here ++ more, next.Lives steps bound here m := by
  rcases List.mem_cons.mp hother with rfl | hother
  · obtain ⟨-, last, haccepts⟩ := h
    obtain ⟨m, hm, next, hnext, hlives⟩ := lives_followed hs hstart hwait haccepts
    exact ⟨m, Nat.le_of_lt hm, next, List.mem_append_left _ hnext, hlives⟩
  · exact ⟨n, Nat.le_refl n, other, List.mem_append_right _ hother, h⟩

theorem enter (h : Sooner steps bound here seen (thread :: more))
    (hs : steps[thread.state]? ≠ some .accept) (hstart : thread.start ≤ bound)
    (hwait : ∀ next ∈ thread.waiting steps here, ¬ next.LivesOn steps bound here) :
    Sooner steps bound here (seen.insert thread.state) (thread.followed steps here ++ more) := by
  intro n state last hseen haccepts
  rcases Marks.has_of_has_insert hseen with hseen | rfl
  · obtain ⟨m, hm, other, hother, hlives⟩ := h hseen haccepts
    obtain ⟨k, hk, hnext⟩ := mem_followed_append hs hstart hwait hother hlives
    exact ⟨k, Nat.lt_of_le_of_lt hk hm, hnext⟩
  · obtain ⟨m, hm, next, hnext, hlives⟩ := lives_followed hs hstart hwait haccepts
    exact ⟨m, hm, next, List.mem_append_left _ hnext, hlives⟩

end Sooner

namespace Settled

theorem length_followed_add_left (here : Cursor) {seen : Marks} {thread : Thread}
    (hsize : seen.entered.size = steps.size) (hseen : seen.has thread.state = false) :
    (thread.followed steps here).length + 2 * (seen.insert thread.state).left ≤ 2 * seen.left := by
  by_cases hlt : thread.state < seen.entered.size
  · have hleft := Marks.left_insert hlt hseen
    have htwo := thread.length_followed_le steps here
    omega
  · have hnone : steps[thread.state]? = none := Array.getElem?_eq_none (by omega)
    have hsame : seen.insert thread.state = seen := by
      rw [Marks.insert, Array.setIfInBounds, dif_neg hlt]
    rw [Thread.followed, hnone, hsame, List.length_nil]
    omega

/-- A thread that lives leaves one behind the next character, unless one is accepted that began no
later than the bound. -/
theorem settle_lives (fuel : Nat) : ∀ (seen : Marks) (stack ahead : List Thread),
    stack.length + 2 * seen.left ≤ fuel → seen.entered.size = steps.size → Ascending stack →
    Sooner steps bound here seen stack →
    (∃ thread ∈ stack, ∃ n, thread.Lives steps bound here n) →
      (∃ thread ∈ (settle steps here fuel seen stack ahead).ahead,
          thread.LivesOn steps bound here) ∨
        ∃ thread ∈ (settle steps here fuel seen stack ahead).accepted, thread.start ≤ bound := by
  induction fuel with
  | zero =>
    rintro seen stack ahead hfuel - - - ⟨thread, ht, -⟩
    obtain rfl : stack = [] := List.eq_nil_of_length_eq_zero (by omega)
    cases ht
  | succ fuel ih =>
    rintro seen stack ahead hfuel hsize hsorted hsooner ⟨live, hmem, n, hlive⟩
    cases stack with
    | nil => cases hmem
    | cons thread more =>
      -- The first thread began no later than the one that lives.
      have hstart : thread.start ≤ bound := by
        rcases List.mem_cons.mp hmem with rfl | hmem
        · exact hlive.1
        · exact Nat.le_trans (List.rel_of_pairwise_cons hsorted hmem) hlive.1
      rw [List.length_cons] at hfuel
      rw [settle_cons]
      by_cases hseen : seen.has thread.state = true
      · rw [if_pos hseen]
        refine ih seen more ahead (by omega) hsize hsorted.of_cons (hsooner.drop hseen) ?_
        rcases List.mem_cons.mp hmem with rfl | hmem
        · obtain ⟨-, last, haccepts⟩ := hlive
          obtain ⟨m, -, other, hother, hlives⟩ := hsooner.drop hseen hseen haccepts
          exact ⟨other, hother, m, hlives⟩
        · exact ⟨live, hmem, n, hlive⟩
      · rw [if_neg hseen]
        by_cases hs : steps[thread.state]? = some .accept
        · rw [if_pos hs]
          exact .inr ⟨thread, rfl, hstart⟩
        · rw [if_neg hs]
          by_cases hwait : ∃ next ∈ thread.waiting steps here, next.LivesOn steps bound here
          · obtain ⟨next, hnext, hlives⟩ := hwait
            exact .inl ⟨next, mem_settle_ahead fuel (List.mem_append_left _ hnext), hlives⟩
          · have hwait : ∀ next ∈ thread.waiting steps here, ¬ next.LivesOn steps bound here :=
              fun next hnext hlives => hwait ⟨next, hnext, hlives⟩
            obtain ⟨m, -, next, hnext, hlives⟩ :=
              Sooner.mem_followed_append hs hstart hwait hmem hlive
            refine ih _ _ _ ?_ ((Marks.size_insert seen thread.state).trans hsize) ?_
              (hsooner.enter hs hstart hwait) ⟨next, hnext, m, hlives⟩
            · have hroom := length_followed_add_left here hsize (by simpa using hseen)
              rw [List.length_append]
              omega
            · exact @Ascending.replace [] _ more thread hsorted
                fun next hnext => (Thread.mem_followed hnext).1

/-- The threads of a place among which one lives, in the order in which they began. -/
theorem ofThreads_lives {threads : List Thread} (hsorted : Ascending threads) {n : Nat}
    {thread : Thread} (ht : thread ∈ threads) (h : thread.Lives steps bound here n) :
    (∃ next ∈ (ofThreads steps here threads).ahead, next.LivesOn steps bound here) ∨
      ∃ found ∈ (ofThreads steps here threads).accepted, found.start ≤ bound := by
  refine settle_lives _ (Marks.none steps.size) threads [] ?_ ?_ hsorted (Sooner.empty threads)
    ⟨thread, ht, n, h⟩
  · have hleft := Marks.left_none steps.size
    omega
  · simp [Marks.none]

theorem ofThreads_ascending {threads : List Thread} (h : Ascending threads) :
    Ascending ((ofThreads steps here threads).ahead ++
      (ofThreads steps here threads).accepted.toList) :=
  @settle_ascending steps here _ (Marks.none steps.size) threads [] h

end Settled

namespace Automaton

/-- A match that begins by a place only gives way to others that do, if all threads began by it. -/
theorem searchFrom_early {best : Match} {threads : List Thread} {pos : Nat} {prev : Option Char}
    {rest : Text} (hbest : best.span.start ≤ bound)
    (hthreads : ∀ thread ∈ threads, thread.start ≤ bound) :
    ∃ hit, searchFrom steps (some best) threads pos prev rest = some hit ∧
      hit.span.start ≤ bound := by
  obtain ⟨hit, hhit⟩ :=
    Option.isSome_iff_exists.mp (@isSome_searchFrom steps rest best threads pos prev)
  refine ⟨hit, hhit, ?_⟩
  refine searchFrom_keeps (I := fun _ => True) (P := fun _ thread => thread.start ≤ bound)
    (M := fun hit => hit.span.start ≤ bound) (fun _ => trivial)
    (fun ht hnext => (Thread.mem_followed hnext).1 ▸ ht)
    (fun ht hnext => (Thread.mem_waiting hnext).1 ▸ ht) (fun _ ht _ => ht) rest
    (fun hnone => by cases hnone) trivial hthreads (fun _ hb => ?_) hit hhit
  cases hb
  exact hbest

theorem begun_starts (best : Option Match) {threads : List Thread} {pos : Nat}
    (h : ∀ thread ∈ threads, thread.start ≤ pos) :
    ∀ thread ∈ begun best threads pos, thread.start ≤ pos := by
  intro thread ht
  rcases mem_begun.mp ht with ht | ⟨-, rfl⟩
  · exact h thread ht
  · exact Nat.le_refl pos

/-- Where a thread lives that began by a place, a match is found that begins by it. -/
theorem searchFrom_lives (rest : Text) : ∀ {best : Option Match} {threads : List Thread} {pos : Nat}
    {prev : Option Char} {n : Nat} {thread : Thread}, bound ≤ pos → Settled.Ascending threads →
    (∀ thread ∈ threads, thread.start ≤ pos) → thread ∈ begun best threads pos →
    thread.Lives steps bound ⟨pos, prev, rest⟩ n →
      ∃ hit, searchFrom steps best threads pos prev rest = some hit ∧ hit.span.start ≤ bound := by
  induction rest with
  | nil =>
    intro best threads pos prev n thread hpos hsorted hstarts ht hlives
    rcases Settled.ofThreads_lives (begun_ascending best hsorted hstarts) ht hlives with
      ⟨next, -, c, rest, m, hrest, -⟩ | ⟨found, hfound, hstart⟩
    · cases hrest
    · refine ⟨Match.ofThread pos found, ?_, hstart⟩
      have hbest : ((Settled.ofThreads steps ⟨pos, prev, []⟩ (begun best threads pos)).accepted.map
          (Match.ofThread pos)).or best = some (Match.ofThread pos found) := by
        rw [Option.mem_def.mp hfound]
        rfl
      exact hbest
  | cons c rest ih =>
    intro best threads pos prev n thread hpos hsorted hstarts ht hlives
    have hbegun := begun_ascending best hsorted hstarts
    have hordered := @Settled.ofThreads_ascending steps ⟨pos, prev, c :: rest⟩ _ hbegun
    obtain ⟨hahead, -⟩ := @Settled.ofThreads_began (· ≤ pos) steps ⟨pos, prev, c :: rest⟩ _
      (begun_starts best hstarts)
    have hfound := Settled.ofThreads_lives hbegun ht hlives
    rw [searchFrom_cons]
    generalize Settled.ofThreads steps ⟨pos, prev, c :: rest⟩ (begun best threads pos) = settled
      at hordered hahead hfound ⊢
    obtain ⟨hsorted', -, hbefore⟩ := List.pairwise_append.mp hordered
    rcases hfound with ⟨next, hnext, _, _, m, hrest, hlives⟩ | ⟨found, hfound, hstart⟩
    · obtain ⟨rfl, rfl⟩ := List.cons.inj hrest
      have hmore : settled.ahead.isEmpty = false := by
        cases hempty : settled.ahead with
        | nil => rw [hempty] at hnext; cases hnext
        | cons => rfl
      simp only [hmore, Bool.false_and, Bool.false_eq_true, if_false]
      exact ih (Nat.le_succ_of_le hpos) hsorted'
        (fun thread ht => Nat.le_succ_of_le (hahead thread ht)) (mem_begun.mpr (.inl hnext)) hlives
    · rw [Option.mem_def] at hfound
      simp only [hfound, Option.map_some, Option.some_or, Option.isSome_some, Bool.and_true]
      split
      · exact ⟨_, rfl, hstart⟩
      · refine searchFrom_early hstart fun thread ht => ?_
        exact Nat.le_trans (hbefore thread ht found (by simp [hfound])) hstart

end Automaton

namespace Automaton

variable {text : Text}

/-- Every match is the way of a thread from where it began to where it is accepted. -/
theorem search?_accepts {low : Nat} {hit : Match}
    (h : search? steps (Cursor.ofPlace text low) = some hit) :
    ∃ n, Accepts steps n 0 (Cursor.ofPlace text hit.span.start)
      (Cursor.ofPlace text hit.span.stop) := by
  refine searchFrom_keeps (I := fun here => Cursor.ofPlace text here.pos = here)
    (P := fun here thread => ∀ {n last}, Accepts steps n thread.state here last →
      ∃ m, Accepts steps m 0 (Cursor.ofPlace text thread.start) last)
    (M := fun hit => ∃ n, Accepts steps n 0 (Cursor.ofPlace text hit.span.start)
      (Cursor.ofPlace text hit.span.stop))
    Cursor.ofPlace_of_cons (fun ht hnext => ?_) (fun ht hnext => ?_) (fun hhere ht hs => ?_) _
    (fun _ here hhere n last haccepts => ⟨n, ?_⟩) rfl (List.forall_mem_nil _)
    (fun _ hnone => by cases hnone) hit h
  · obtain ⟨hstart, step, hs, hlead⟩ := Thread.mem_followed hnext
    intro n last haccepts
    rw [hstart]
    exact ht (.move hs hlead haccepts)
  · obtain ⟨hstart, c, rest, hrest, step, hs, hlead⟩ := Thread.mem_waiting hnext
    obtain ⟨rfl, rfl⟩ := List.cons.inj hrest
    intro n last haccepts
    rw [hstart]
    exact ht (.move hs hlead haccepts)
  · rw [Match.ofThread, hhere]
    exact ht (.accept hs)
  · rwa [hhere]

/-- Where a way to acceptance begins at a place, a match is found that begins there or before. -/
theorem search?_reaches {place n : Nat} {last : Cursor}
    (hway : Accepts steps n 0 (Cursor.ofPlace text place) last) {low : Nat} (hlow : low ≤ place)
    (hplace : place ≤ text.length) :
    ∃ hit, search? steps (Cursor.ofPlace text low) = some hit ∧ hit.span.start ≤ place := by
  have main (rest : Text) : ∀ {threads : List Thread} {pos : Nat} {prev : Option Char},
      Cursor.ofPlace text pos = ⟨pos, prev, rest⟩ → pos ≤ place → Settled.Ascending threads →
      (∀ thread ∈ threads, thread.start ≤ pos) →
        ∃ hit, searchFrom steps none threads pos prev rest = some hit ∧ hit.span.start ≤ place := by
    -- At the place itself a thread begins that is on the way.
    have begins {rest : Text} {threads : List Thread} {prev : Option Char}
        (hhere : Cursor.ofPlace text place = ⟨place, prev, rest⟩)
        (hsorted : Settled.Ascending threads) (hstarts : ∀ thread ∈ threads, thread.start ≤ place) :
        ∃ hit, searchFrom steps none threads place prev rest = some hit ∧
          hit.span.start ≤ place :=
      searchFrom_lives rest (Nat.le_refl place) hsorted hstarts (mem_begun.mpr (.inr ⟨rfl, rfl⟩))
        ⟨Nat.le_refl place, last, hhere ▸ hway⟩
    induction rest with
    | nil =>
      intro threads pos prev hhere hpos hsorted hstarts
      have hend : text.length ≤ pos := List.drop_eq_nil_iff.mp (congrArg Cursor.rest hhere)
      obtain rfl : pos = place := by omega
      exact begins hhere hsorted hstarts
    | cons c rest ih =>
      intro threads pos prev hhere hpos hsorted hstarts
      rcases Nat.eq_or_lt_of_le hpos with rfl | hlt
      · exact begins hhere hsorted hstarts
      · have hbegun := begun_ascending none hsorted hstarts
        have hordered := @Settled.ofThreads_ascending steps ⟨pos, prev, c :: rest⟩ _ hbegun
        obtain ⟨hahead, haccepted⟩ := @Settled.ofThreads_began (· ≤ pos) steps
          ⟨pos, prev, c :: rest⟩ _ (begun_starts none hstarts)
        rw [searchFrom_cons]
        generalize Settled.ofThreads steps ⟨pos, prev, c :: rest⟩ (begun none threads pos) = settled
          at hordered hahead haccepted ⊢
        cases hfound : settled.accepted with
        | none =>
          simp only [hfound, Option.map_none, Option.or_none, Option.isSome_none, Bool.and_false,
            Bool.false_eq_true, if_false]
          exact ih (Cursor.ofPlace_of_cons hhere) hlt (List.pairwise_append.mp hordered).1
            fun thread ht => Nat.le_succ_of_le (hahead thread ht)
        | some found =>
          have hstart : found.start ≤ place :=
            Nat.le_trans (haccepted found (Option.mem_def.mpr hfound)) hpos
          simp only [hfound, Option.map_some, Option.some_or, Option.isSome_some, Bool.and_true]
          split
          · exact ⟨_, rfl, hstart⟩
          · exact searchFrom_early hstart fun thread ht => Nat.le_trans (hahead thread ht) hpos
  exact main _ rfl hlow List.Pairwise.nil (List.forall_mem_nil _)

end Automaton

namespace Pattern

variable {pattern : Pattern} {text : Text} {low : Nat}

def MatchesAt (pattern : Pattern) (text : Text) (place : Nat) : Prop :=
  ∃ there, pattern.Crosses (Cursor.ofPlace text place) there

structure Leftmost (pattern : Pattern) (text : Text) (low : Nat) (found : Span) : Prop where
  between : found.Between low text.length
  crosses : pattern.Crosses (Cursor.ofPlace text found.start) (Cursor.ofPlace text found.stop)
  first : ∀ place, low ≤ place → place < found.start → ¬ pattern.MatchesAt text place

/-- What a search finds is a match at the leftmost place that has one. -/
theorem search?_leftmost (hlow : low ≤ text.length) {hit : Match}
    (h : Automaton.search? pattern.automaton (Cursor.ofPlace text low) = some hit) :
    pattern.Leftmost text low hit.span := by
  have hbetween := Automaton.search?_between h
  simp only [Cursor.ofPlace, List.length_drop, Nat.add_sub_cancel' hlow] at hbetween
  refine ⟨hbetween, accepts_automaton_iff.mp (Automaton.search?_accepts h), ?_⟩
  rintro place hplace hlt ⟨there, hcrosses⟩
  obtain ⟨n, hway⟩ := accepts_automaton_iff.mpr hcrosses
  obtain ⟨_, _, hend⟩ := hbetween
  obtain ⟨other, hother, hstart⟩ := Automaton.search?_reaches hway hplace (by omega)
  rw [h] at hother
  cases hother
  omega

theorem search?_eq_none_iff (hlow : low ≤ text.length) :
    Automaton.search? pattern.automaton (Cursor.ofPlace text low) = none ↔
      ∀ place, low ≤ place → place ≤ text.length → ¬ pattern.MatchesAt text place := by
  constructor
  · rintro h place hplace hend ⟨there, hcrosses⟩
    obtain ⟨n, hway⟩ := accepts_automaton_iff.mpr hcrosses
    obtain ⟨hit, hhit, -⟩ := Automaton.search?_reaches hway hplace hend
    rw [h] at hhit
    cases hhit
  · intro h
    cases hsearch : Automaton.search? pattern.automaton (Cursor.ofPlace text low) with
    | none => rfl
    | some hit =>
      obtain ⟨⟨hstart, hstop, hend⟩, hcrosses, -⟩ := search?_leftmost hlow hsearch
      exact absurd ⟨_, hcrosses⟩ (h hit.span.start hstart (Nat.le_trans hstop hend))

end Pattern

end Recast
