import Recast.Proofs.Pattern.Threads

/-! A search finds the leftmost place where a settled pattern matches, and there the most preferred
match. Dropping a thread whose state was entered before loses nothing: while no thread is behind the
next character that comes to a match, the states entered so far that do come to one lie further from
the next character than the first such thread that is still to be followed. -/

namespace Recast

namespace Yields

variable {steps : Array Step} {here : Cursor} {thread : Thread} {depth : Nat} {found : List Match}

theorem state_lt (way : Yields steps here thread depth found) : thread.state < steps.size := by
  cases way <;> exact (Array.getElem?_eq_some_iff.mp ‹_›).1

/-- Whether a thread comes to a match, and how soon it reads, depends on its state alone. -/
theorem alike (way : Yields steps here thread depth found) :
    ∀ other : Thread, other.state = thread.state →
      ∃ more, Yields steps here other depth more ∧ (more = [] ↔ found = []) := by
  induction way with
  | accept hs =>
    intro other h
    exact ⟨_, .accept (h ▸ hs), by simp⟩
  | @pass here thread next depth found hs way ih =>
    intro other h
    obtain ⟨more, hm, hiff⟩ := ih (other.moved next) rfl
    exact ⟨more, .pass (h ▸ hs) hm, hiff⟩
  | @read pos prev c rest thread members next depth found hs hc way ih =>
    intro other h
    obtain ⟨more, hm, hiff⟩ := ih (other.moved next) rfl
    exact ⟨more, .read (h ▸ hs) hc hm, hiff⟩
  | misread hs hc =>
    intro other h
    exact ⟨[], .misread (h ▸ hs) hc, Iff.rfl⟩
  | @check here thread condition next depth found hs hc way ih =>
    intro other h
    obtain ⟨more, hm, hiff⟩ := ih (other.moved next) rfl
    exact ⟨more, .check (h ▸ hs) hc hm, hiff⟩
  | refuse hs hc =>
    intro other h
    exact ⟨[], .refuse (h ▸ hs) hc, Iff.rfl⟩
  | @note here thread slot next depth found hs way ih =>
    intro other h
    obtain ⟨more, hm, hiff⟩ := ih ⟨next, other.start, (slot, here.pos) :: other.slots⟩ rfl
    exact ⟨more, .note (h ▸ hs) hm, hiff⟩
  | @fork here thread first second depth₁ depth₂ found₁ found₂ hs way₁ way₂ ih₁ ih₂ =>
    intro other h
    obtain ⟨more₁, hm₁, hiff₁⟩ := ih₁ (other.moved first) rfl
    obtain ⟨more₂, hm₂, hiff₂⟩ := ih₂ (other.moved second) rfl
    exact ⟨more₁ ++ more₂, .fork (h ▸ hs) hm₁ hm₂, by simp [hiff₁, hiff₂]⟩

theorem unique (way : Yields steps here thread depth found) :
    ∀ {depth' found'}, Yields steps here thread depth' found' → depth' = depth ∧ found' = found := by
  induction way with
  | accept hs =>
    intro depth' found' other
    cases other <;> simp_all
  | pass hs way ih =>
    intro depth' found' other
    cases other with
    | pass hs' way' =>
      obtain rfl : _ = _ := by simpa [hs] using hs'
      obtain ⟨rfl, rfl⟩ := ih way'
      exact ⟨rfl, rfl⟩
    | _ => simp_all
  | read hs hc way ih =>
    intro depth' found' other
    cases other with
    | read hs' hc' way' =>
      obtain ⟨rfl, rfl⟩ : _ ∧ _ := by simpa [hs] using hs'
      obtain ⟨rfl, rfl⟩ := ih way'
      exact ⟨rfl, rfl⟩
    | _ => simp_all
  | misread hs hc =>
    intro depth' found' other
    cases other <;> simp_all
  | check hs hc way ih =>
    intro depth' found' other
    cases other with
    | check hs' hc' way' =>
      obtain ⟨rfl, rfl⟩ : _ ∧ _ := by simpa [hs] using hs'
      obtain ⟨rfl, rfl⟩ := ih way'
      exact ⟨rfl, rfl⟩
    | _ => simp_all
  | refuse hs hc =>
    intro depth' found' other
    cases other <;> simp_all
  | note hs way ih =>
    intro depth' found' other
    cases other with
    | note hs' way' =>
      obtain ⟨rfl, rfl⟩ : _ ∧ _ := by simpa [hs] using hs'
      obtain ⟨rfl, rfl⟩ := ih way'
      exact ⟨rfl, rfl⟩
    | _ => simp_all
  | fork hs way₁ way₂ ih₁ ih₂ =>
    intro depth' found' other
    cases other with
    | fork hs' way₁' way₂' =>
      obtain ⟨rfl, rfl⟩ : _ ∧ _ := by simpa [hs] using hs'
      obtain ⟨rfl, rfl⟩ := ih₁ way₁'
      obtain ⟨rfl, rfl⟩ := ih₂ way₂'
      exact ⟨rfl, rfl⟩
    | _ => simp_all

end Yields

inductive Bundle (steps : Array Step) (here : Cursor) : List Thread → List Match → Prop
  | nil : Bundle steps here [] []
  | cons {thread depth found more others} (way : Yields steps here thread depth found)
    (rest : Bundle steps here more others) : Bundle steps here (thread :: more) (found ++ others)

theorem Bundle.append {steps : Array Step} {here : Cursor} {first second : List Thread}
    {found others : List Match} (h₁ : Bundle steps here first found)
    (h₂ : Bundle steps here second others) :
    Bundle steps here (first ++ second) (found ++ others) := by
  induction h₁ with
  | nil => exact h₂
  | cons way rest ih =>
    rw [List.append_assoc]
    exact .cons way ih

def Waiting (steps : Array Step) (here : Cursor) (threads : List Thread) (found : List Match) :
    Prop :=
  match here.rest with
  | [] => threads = [] ∧ found = []
  | c :: rest => Bundle steps ⟨here.pos + 1, some c, rest⟩ threads found

theorem Waiting.nil {steps : Array Step} {here : Cursor} : Waiting steps here [] [] := by
  unfold Waiting
  split
  · exact ⟨rfl, rfl⟩
  · exact .nil

inductive Foremost (steps : Array Step) (here : Cursor) : List Thread → Nat → Prop
  | here {thread depth found more} (way : Yields steps here thread depth found)
    (hf : found ≠ []) : Foremost steps here (thread :: more) depth
  | later {thread depth more lead} (way : Yields steps here thread depth [])
    (rest : Foremost steps here more lead) : Foremost steps here (thread :: more) lead

namespace Foremost

variable {steps : Array Step} {here : Cursor} {thread : Thread} {depth lead : Nat}
  {found : List Match} {more : List Thread}

theorem depth_eq (h : Foremost steps here (thread :: more) lead)
    (way : Yields steps here thread depth found) (hf : found ≠ []) : lead = depth := by
  cases h with
  | here way' _ => exact (way.unique way').1
  | later way' _ => exact absurd (way.unique way').2.symm hf

theorem of_cons (h : Foremost steps here (thread :: more) lead)
    (way : Yields steps here thread depth []) : Foremost steps here more lead := by
  cases h with
  | here way' hf => exact absurd (way.unique way').2 hf
  | later _ rest => exact rest

end Foremost

/-- Every state entered that comes to a match is further from the next character than the first
thread that does. -/
def Ahead (steps : Array Step) (here : Cursor) (seen : Marks) (stack : List Thread) : Prop :=
  ∀ (thread : Thread) (depth : Nat) (found : List Match), seen.has thread.state = true →
    Yields steps here thread depth found → found ≠ [] →
      ∃ lead < depth, Foremost steps here stack lead

namespace Ahead

variable {steps : Array Step} {here : Cursor} {seen : Marks} {thread : Thread} {depth : Nat}
  {found : List Match} {more stack : List Thread}

theorem empty (stack : List Thread) : Ahead steps here (Marks.none steps.size) stack := by
  intro thread depth found hseen
  simp at hseen

/-- A thread in a state that was entered before comes to no match that is not found already. -/
theorem found_eq_nil (h : Ahead steps here seen (thread :: more))
    (hseen : seen.has thread.state = true) (way : Yields steps here thread depth found) :
    found = [] := by
  by_cases hf : found = []
  · exact hf
  · obtain ⟨lead, hlt, hlead⟩ := h thread depth found hseen way hf
    have := hlead.depth_eq way hf
    omega

theorem drop (h : Ahead steps here seen (thread :: more))
    (way : Yields steps here thread depth []) : Ahead steps here seen more := by
  intro other depth' found' hseen way' hf
  obtain ⟨lead, hlt, hlead⟩ := h other depth' found' hseen way' hf
  exact ⟨lead, hlt, hlead.of_cons way⟩

/-- Entering a state keeps the order as long as what replaces its thread leads sooner if the thread
comes to a match, and hides nothing if it does not. -/
theorem enter (h : Ahead steps here seen (thread :: more))
    (hsize : seen.entered.size = steps.size) (way : Yields steps here thread depth found)
    (hlive : found ≠ [] → ∃ lead < depth, Foremost steps here stack lead)
    (hdead : found = [] → ∀ lead, Foremost steps here more lead → Foremost steps here stack lead) :
    Ahead steps here (seen.insert thread.state) stack := by
  intro other depth' found' hseen way' hf'
  have hlt : thread.state < seen.entered.size := hsize ▸ way.state_lt
  rw [Marks.has_insert seen _ _ hlt, Bool.or_eq_true, decide_eq_true_eq] at hseen
  rcases hseen with hseen | hstate
  · obtain ⟨lead, hlead, hleads⟩ := h other depth' found' hseen way' hf'
    by_cases hf : found = []
    · subst hf
      exact ⟨lead, hlead, hdead rfl lead (hleads.of_cons way)⟩
    · obtain ⟨sooner, hsooner, hstack⟩ := hlive hf
      have := hleads.depth_eq way hf
      exact ⟨sooner, by omega, hstack⟩
  · obtain ⟨same, hsame, hiff⟩ := way.alike other hstate.symm
    obtain ⟨rfl, rfl⟩ := hsame.unique way'
    exact hlive (fun h => hf' (hiff.mpr h))

theorem leave (h : Ahead steps here seen (thread :: more))
    (hsize : seen.entered.size = steps.size) (way : Yields steps here thread depth []) :
    Ahead steps here (seen.insert thread.state) more :=
  h.enter hsize way (absurd rfl) fun _ _ hlead => hlead

theorem follow (h : Ahead steps here seen (thread :: more))
    (hsize : seen.entered.size = steps.size) (way : Yields steps here thread depth found)
    {next : Thread} {sooner : Nat} (hlt : sooner < depth)
    (onward : Yields steps here next sooner found) :
    Ahead steps here (seen.insert thread.state) (next :: more) := by
  refine h.enter hsize way (fun hf => ⟨sooner, hlt, .here onward hf⟩) ?_
  rintro rfl lead hlead
  exact .later onward hlead

/-- A thread parts into two; the second leads where the first comes to no match. -/
theorem part {first second : Thread} {sooner₁ sooner₂ : Nat} {found₁ found₂ : List Match}
    (h : Ahead steps here seen (thread :: more)) (hsize : seen.entered.size = steps.size)
    (way : Yields steps here thread depth (found₁ ++ found₂)) (hlt₁ : sooner₁ < depth)
    (hlt₂ : sooner₂ < depth) (onward₁ : Yields steps here first sooner₁ found₁)
    (onward₂ : Yields steps here second sooner₂ found₂) :
    Ahead steps here (seen.insert thread.state) (first :: second :: more) := by
  refine h.enter hsize way (fun hf => ?_) fun hf lead hlead => ?_
  · by_cases hf₁ : found₁ = []
    · subst hf₁
      exact ⟨sooner₂, hlt₂, .later onward₁ (.here onward₂ hf)⟩
    · exact ⟨sooner₁, hlt₁, .here onward₁ hf₁⟩
  · obtain ⟨rfl, rfl⟩ := List.append_eq_nil_iff.mp hf
    exact .later onward₁ (.later onward₂ hlead)

end Ahead

namespace Marks

def left (marks : Marks) : Nat := marks.entered.count false

theorem left_none (size : Nat) : (none size).left = size := by
  simp [none, left]

theorem left_insert {marks : Marks} {state : Nat} (h : state < marks.entered.size)
    (hnew : marks.has state = false) : (marks.insert state).left + 1 = marks.left := by
  have hfalse : marks.entered[state] = false := by
    simpa [has, Array.getD_eq_getD_getElem?, h] using hnew
  have hpos : 0 < marks.left := Array.count_pos_iff.mpr (hfalse ▸ Array.getElem_mem h)
  unfold left at hpos
  simp only [left, insert, Array.setIfInBounds_def, h, ↓reduceDIte, Array.count_set, hfalse]
  simp
  omega

theorem size_insert (marks : Marks) (state : Nat) :
    (marks.insert state).entered.size = marks.entered.size := by
  simp [insert]

end Marks

namespace Settled

variable {steps : Array Step} {here : Cursor}

/-- The most preferred match of the threads that wait or are still to be followed is that of the
threads that wait in the end, or else the one accepted here. -/
def Faithful (steps : Array Step) (here : Cursor) (found : List Match) (settled : Settled) : Prop :=
  ∃ waiting, Waiting steps here settled.ahead waiting ∧
    found.head? = waiting.head?.or (settled.accepted.map (Match.ofThread here.pos))

theorem Faithful.done {ahead : List Thread} {waiting : List Match}
    (h : Waiting steps here ahead waiting) :
    Faithful steps here waiting ⟨ahead, none⟩ :=
  ⟨waiting, h, by simp⟩

theorem settle_faithful (fuel : Nat) : ∀ (seen : Marks) (stack ahead : List Thread)
    (found waiting : List Match),
    stack.length + 2 * seen.left ≤ fuel → seen.entered.size = steps.size →
    Bundle steps here stack found → Waiting steps here ahead.reverse waiting →
    (waiting = [] → Ahead steps here seen stack) →
      Faithful steps here (waiting ++ found) (settle steps here fuel seen stack ahead) := by
  induction fuel with
  | zero =>
    intro seen stack ahead found waiting hfuel _ hstack hwait _
    obtain rfl : stack = [] := List.eq_nil_of_length_eq_zero (by omega)
    cases hstack
    rw [List.append_nil]
    exact .done hwait
  | succ fuel ih =>
    intro seen stack ahead found waiting hfuel hsize hstack hwait hahead
    cases hstack with
    | nil =>
      rw [List.append_nil]
      exact .done hwait
    | @cons thread depth found more others way rest =>
    rw [List.length_cons] at hfuel
    unfold settle
    by_cases hseen : seen.has thread.state = true
    · -- The state was entered before, so its matches come after one that is known.
      rw [if_pos hseen]
      by_cases hw : waiting = []
      · subst hw
        obtain rfl := (hahead rfl).found_eq_nil hseen way
        exact ih seen more ahead others [] (by omega) hsize rest hwait
          fun _ => (hahead rfl).drop way
      · have := ih seen more ahead others waiting (by omega) hsize rest hwait (absurd · hw)
        obtain ⟨first, remaining, rfl⟩ := List.exists_cons_of_ne_nil hw
        simpa [Faithful] using this
    · rw [if_neg hseen]
      have hlt : thread.state < seen.entered.size := hsize ▸ way.state_lt
      have hleft := Marks.left_insert hlt (by simpa using hseen)
      have hsize' := (Marks.size_insert seen thread.state).trans hsize
      have whole := way
      cases way with
      | accept hs =>
        simp only [hs]
        exact ⟨waiting, hwait, by simp [List.head?_append]⟩
      | @pass _ _ next depth _ hs way =>
        simp only [hs]
        exact ih _ (thread.moved next :: more) ahead _ waiting (by simp; omega) hsize'
          (.cons way rest) hwait fun hw => (hahead hw).follow hsize whole depth.lt_succ_self way
      | @read pos prev c text _ members next depth _ hs hc way =>
        simp only [hs, List.head?_cons, Option.any_some, hc, if_true]
        rw [← List.append_assoc]
        refine ih _ more (thread.moved next :: ahead) others (waiting ++ found) (by omega) hsize'
          rest ?_ fun hnil => ?_
        · rw [List.reverse_cons]
          have := Bundle.append hwait (.cons way .nil)
          simpa [Waiting] using this
        · obtain ⟨hw, rfl⟩ := List.append_eq_nil_iff.mp hnil
          exact (hahead hw).leave hsize whole
      | misread hs hc =>
        simp only [hs, hc]
        exact ih _ more ahead others waiting (by omega) hsize' rest hwait
          fun hw => (hahead hw).leave hsize whole
      | @check _ _ condition next depth _ hs hc way =>
        simp only [hs, hc, if_true]
        exact ih _ (thread.moved next :: more) ahead _ waiting (by simp; omega) hsize'
          (.cons way rest) hwait fun hw => (hahead hw).follow hsize whole depth.lt_succ_self way
      | refuse hs hc =>
        simp only [hs, hc]
        exact ih _ more ahead others waiting (by omega) hsize' rest hwait
          fun hw => (hahead hw).leave hsize whole
      | @note _ _ slot next depth _ hs way =>
        simp only [hs]
        exact ih _ (⟨next, thread.start, (slot, here.pos) :: thread.slots⟩ :: more) ahead _ waiting
          (by simp; omega) hsize' (.cons way rest) hwait
          fun hw => (hahead hw).follow hsize whole depth.lt_succ_self way
      | @fork _ _ first second depth₁ depth₂ found₁ found₂ hs way₁ way₂ =>
        simp only [hs]
        rw [List.append_assoc found₁]
        exact ih _ (thread.moved first :: thread.moved second :: more) ahead _ waiting
          (by simp; omega) hsize' (.cons way₁ (.cons way₂ rest)) hwait
          fun hw => (hahead hw).part hsize whole (by omega) (by omega) way₁ way₂

theorem ofThreads_faithful {threads : List Thread} {found : List Match}
    (h : Bundle steps here threads found) :
    Faithful steps here found (ofThreads steps here threads) := by
  refine settle_faithful _ (Marks.none steps.size) threads [] found [] ?_ ?_ h .nil ?_
  · have hleft := Marks.left_none steps.size
    omega
  · simp [Marks.none]
  · exact fun _ => .empty threads

end Settled

namespace Pattern

def matchOf (here : Cursor) (spot : Spot) : Match := ⟨⟨here.pos, spot.1.pos⟩, spot.2⟩

def matchAt? (pattern : Pattern) (here : Cursor) : Option Match :=
  (pattern.ends (here, [])).head?.map (matchOf here)

def leftmost? (pattern : Pattern) : Nat → Option Char → Text → Option Match
  | pos, prev, [] => pattern.matchAt? ⟨pos, prev, []⟩
  | pos, prev, c :: rest =>
    (pattern.matchAt? ⟨pos, prev, c :: rest⟩).or (pattern.leftmost? (pos + 1) (some c) rest)

theorem automaton_comes {pattern : Pattern} (h : pattern.settled = true) (here : Cursor) :
    Comes pattern.automaton here ⟨0, here.pos, []⟩
      ((pattern.ends (here, [])).map (matchOf here)) := by
  have hlaid : Laid pattern.automaton 0 (pattern.block 0 pattern.size ++ [Step.accept]) := by
    intro i step hi
    simpa [automaton] using hi
  have haccept := hlaid.right.head
  rw [length_block, Nat.zero_add] at haccept
  rw [List.map_eq_flatMap]
  exact block_carries pattern h 0 pattern.size hlaid.left here.pos (here, [])
    (fun found => [matchOf here found]) fun found _ => ⟨0, .accept haccept⟩

end Pattern

namespace Automaton

/-- The threads of a place, together with the one that begins there while nothing is accepted. -/
theorem begun_bundle {pattern : Pattern} (h : pattern.settled = true) {here : Cursor}
    {threads : List Thread} {found : List Match} (best : Option Match)
    (hb : Bundle pattern.automaton here threads found) :
    ∃ all, Bundle pattern.automaton here
        (if best.isNone then threads ++ [⟨0, here.pos, []⟩] else threads) all ∧
      all.head?.or best = found.head?.or (best.or (pattern.matchAt? here)) := by
  cases best with
  | none =>
    obtain ⟨depth, way⟩ := Pattern.automaton_comes h here
    refine ⟨_, Bundle.append hb (.cons way .nil), ?_⟩
    simp [List.head?_append, Pattern.matchAt?]
  | some best => exact ⟨found, hb, by simp⟩

/-- The invariant of a search: the matches of the threads in hand come first, then the best match so
far, and only then what begins at this place or later. -/
theorem searchFrom_eq {pattern : Pattern} (h : pattern.settled = true) (rest : Text) :
    ∀ (best : Option Match) (threads : List Thread) (pos : Nat) (prev : Option Char)
      (found : List Match), Bundle pattern.automaton ⟨pos, prev, rest⟩ threads found →
      searchFrom pattern.automaton best threads pos prev rest =
        found.head?.or (best.or (pattern.leftmost? pos prev rest)) := by
  induction rest with
  | nil =>
    intro best threads pos prev found hb
    obtain ⟨all, hall, heq⟩ := begun_bundle h best hb
    obtain ⟨waiting, ⟨_, rfl⟩, hhead⟩ := Settled.ofThreads_faithful hall
    rw [List.head?_nil, Option.none_or] at hhead
    rw [Pattern.leftmost?, ← heq, hhead]
    simp only [searchFrom]
  | cons c rest ih =>
    intro best threads pos prev found hb
    obtain ⟨all, hall, heq⟩ := begun_bundle h best hb
    obtain ⟨waiting, hwait, hhead⟩ := Settled.ofThreads_faithful hall
    have hright : found.head?.or (best.or (pattern.leftmost? pos prev (c :: rest))) =
        (all.head?.or best).or (pattern.leftmost? (pos + 1) (some c) rest) := by
      rw [heq, Pattern.leftmost?, Option.or_assoc, Option.or_assoc]
    rw [hright, hhead]
    simp only [searchFrom]
    generalize Settled.ofThreads _ _ _ = settled at hwait ⊢
    split
    next hstop =>
      obtain ⟨hempty, hbest⟩ := Bool.and_eq_true_iff.mp hstop
      obtain ⟨found', hbest⟩ := Option.isSome_iff_exists.mp hbest
      rw [List.isEmpty_iff.mp hempty] at hwait
      cases hwait
      rw [List.head?_nil, Option.none_or, hbest, Option.some_or]
    next => rw [ih _ _ _ _ waiting hwait, Option.or_assoc, Option.or_assoc, Option.or_assoc]

/-- A search finds the most preferred match at the leftmost place that has one. -/
theorem search?_eq_leftmost? {pattern : Pattern} (h : pattern.settled = true) (here : Cursor) :
    search? pattern.automaton here = pattern.leftmost? here.pos here.prev here.rest := by
  simp [search?, searchFrom_eq h here.rest none [] here.pos here.prev [] .nil]

end Automaton

end Recast
