import Recast.Proofs.Pattern.Ends

/-! The automaton of a settled pattern follows the ways that `Pattern.ends` lists, in the same order.
The statement is about a block in the middle of an automaton: whatever the state behind the block
makes of each end, the first state of the block makes of the place where the block is entered. -/

namespace Recast

def Laid (steps : Array Step) (base : Nat) (block : List Step) : Prop :=
  ∀ i step, block[i]? = some step → steps[base + i]? = some step

namespace Laid

variable {steps : Array Step} {base : Nat} {step : Step} {block first second : List Step}

theorem head (h : Laid steps base (step :: block)) : steps[base]? = some step := by
  simpa using h 0 step rfl

theorem tail (h : Laid steps base (step :: block)) : Laid steps (base + 1) block := by
  intro i found hi
  have := h (i + 1) found (by simpa using hi)
  rwa [Nat.add_assoc, Nat.add_comm 1 i]

theorem left (h : Laid steps base (first ++ second)) : Laid steps base first := by
  intro i found hi
  have hlt : i < first.length := (List.getElem?_eq_some_iff.mp hi).1
  exact h i found (by rw [List.getElem?_append_left hlt]; exact hi)

theorem right (h : Laid steps base (first ++ second)) :
    Laid steps (base + first.length) second := by
  intro i found hi
  have := h (first.length + i) found
    (by rw [List.getElem?_append_right (Nat.le_add_right _ _), Nat.add_sub_cancel_left]; exact hi)
  rwa [Nat.add_assoc]

end Laid

/-- The matches that a thread comes to from a place on, most preferred first. The number is how many
steps at most are taken before the next character is read. -/
inductive Yields (steps : Array Step) : Cursor → Thread → Nat → List Match → Prop
  | accept {here thread} (hs : steps[thread.state]? = some .accept) :
    Yields steps here thread 0 [Match.ofThread here.pos thread]
  | pass {here thread next depth found} (hs : steps[thread.state]? = some (.pass next))
    (way : Yields steps here (thread.moved next) depth found) :
    Yields steps here thread (depth + 1) found
  | read {pos prev c rest thread members next depth found}
    (hs : steps[thread.state]? = some (.read members next)) (hc : members.has c = true)
    (way : Yields steps ⟨pos + 1, some c, rest⟩ (thread.moved next) depth found) :
    Yields steps ⟨pos, prev, c :: rest⟩ thread 0 found
  | misread {here thread members next} (hs : steps[thread.state]? = some (.read members next))
    (hc : here.rest.head?.any members.has = false) :
    Yields steps here thread 0 []
  | check {here thread condition next depth found}
    (hs : steps[thread.state]? = some (.check condition next))
    (hc : condition.holds here = true)
    (way : Yields steps here (thread.moved next) depth found) :
    Yields steps here thread (depth + 1) found
  | refuse {here thread condition next}
    (hs : steps[thread.state]? = some (.check condition next))
    (hc : condition.holds here = false) :
    Yields steps here thread 0 []
  | note {here thread slot next depth found}
    (hs : steps[thread.state]? = some (.note slot next))
    (way : Yields steps here ⟨next, thread.start, (slot, here.pos) :: thread.slots⟩ depth found) :
    Yields steps here thread (depth + 1) found
  | fork {here thread first second depth₁ depth₂ found₁ found₂}
    (hs : steps[thread.state]? = some (.fork first second))
    (way₁ : Yields steps here (thread.moved first) depth₁ found₁)
    (way₂ : Yields steps here (thread.moved second) depth₂ found₂) :
    Yields steps here thread (max depth₁ depth₂ + 1) (found₁ ++ found₂)

def Comes (steps : Array Step) (here : Cursor) (thread : Thread) (found : List Match) : Prop :=
  ∃ depth, Yields steps here thread depth found

/-- From `base` the steps lead to `next` in the ways that `step` lists: the matches behind each way,
one after the other, are the matches from `base`. -/
def Carries (steps : Array Step) (step : Spot → List Spot) (base next : Nat) : Prop :=
  ∀ (start : Nat) (spot : Spot) (behind : Spot → List Match),
    (∀ found ∈ step spot, Comes steps found.1 ⟨next, start, found.2⟩ (behind found)) →
      Comes steps spot.1 ⟨base, start, spot.2⟩ ((step spot).flatMap behind)

namespace Carries

variable {steps : Array Step} {base middle next : Nat} {first second : Spot → List Spot}

theorem refl : Carries steps (fun spot => [spot]) base base := by
  intro start spot behind h
  simpa using h spot (List.mem_singleton_self spot)

theorem pass (hs : steps[base]? = some (.pass next)) :
    Carries steps (fun spot => [spot]) base next := by
  intro start spot behind h
  obtain ⟨depth, way⟩ := h spot (List.mem_singleton_self spot)
  exact ⟨depth + 1, by simpa using Yields.pass hs way⟩

theorem seq (h₁ : Carries steps first base middle) (h₂ : Carries steps second middle next) :
    Carries steps (fun spot => (first spot).flatMap second) base next := by
  intro start spot behind h
  rw [List.flatMap_assoc]
  refine h₁ start spot _ fun found hf => h₂ start found behind fun last hl => ?_
  exact h last (List.mem_flatMap.mpr ⟨found, hf, hl⟩)

end Carries

/-- A fork between a round and the way on has the matches of both, in the order of preference. -/
theorem Comes.choose {steps : Array Step} {here : Cursor} {base start : Nat}
    {slots : List (Nat × Nat)} {lazy : Bool} {round onward : Nat} {found₁ found₂ : List Match}
    (hs : steps[base]? = some (Step.choose lazy round onward))
    (h₁ : Comes steps here ⟨round, start, slots⟩ found₁)
    (h₂ : Comes steps here ⟨onward, start, slots⟩ found₂) :
    Comes steps here ⟨base, start, slots⟩
      (if lazy then found₂ ++ found₁ else found₁ ++ found₂) := by
  obtain ⟨depth₁, way₁⟩ := h₁
  obtain ⟨depth₂, way₂⟩ := h₂
  cases lazy with
  | false => exact ⟨_, Yields.fork hs way₁ way₂⟩
  | true => exact ⟨_, Yields.fork hs way₂ way₁⟩

theorem Pattern.flatMap_prefer (lazy : Bool) (round onward : List Spot)
    (behind : Spot → List Match) :
    (prefer lazy round onward).flatMap behind =
      if lazy then onward.flatMap behind ++ round.flatMap behind
      else round.flatMap behind ++ onward.flatMap behind := by
  cases lazy <;> simp [prefer]

namespace Step

variable {steps : Array Step} {body : Block} {size : Nat} {step : Spot → List Spot}

theorem rounds_succ (body : Block) (size count base : Nat) :
    rounds body size (count + 1) base =
      body base (base + size) ++ rounds body size count (base + size) := by
  have h (i : Nat) : base + (i + 1) * size = base + size + i * size := by
    rw [Nat.add_mul]
    omega
  simp [rounds, List.range_succ_eq_map, List.flatMap_map, h]

theorem options_succ (lazy : Bool) (body : Block) (size count base leave : Nat) :
    options lazy body size (count + 1) base leave =
      choose lazy (base + 1) leave :: body (base + 1) (base + 1 + size) ++
        options lazy body size count (base + 1 + size) leave := by
  have h (i : Nat) : base + (i + 1) * (size + 1) = base + 1 + size + i * (size + 1) := by
    rw [Nat.add_mul]
    omega
  simp [options, List.range_succ_eq_map, List.flatMap_map, h]

/-! Where the parts of a repetition lie. -/

theorem laid_between (hlen : ∀ base next, (body base next).length = size)
    {least most base next : Nat} {lazy consumes : Bool}
    (h : Laid steps base (within ⟨least, some most, lazy⟩ consumes body size base next)) :
    Laid steps base (rounds body size least base) ∧
      Laid steps (base + least * size) (options lazy body size (most - least) (base + least * size)
        (base + least * size + (most - least) * (size + 1))) ∧
      steps[base + least * size + (most - least) * (size + 1)]? = some (.pass next) := by
  have hmay := h.left.right
  have hpass := h.right.head
  rw [length_rounds hlen] at hmay
  rw [List.length_append, length_rounds hlen, length_options hlen, ← Nat.add_assoc] at hpass
  exact ⟨h.left.left, hmay, hpass⟩

theorem laid_plus (hlen : ∀ base next, (body base next).length = size) {base next : Nat}
    {lazy : Bool} (h : Laid steps base (plus lazy body size base next)) :
    Laid steps base (body base (base + size)) ∧
      steps[base + size]? = some (choose lazy base next) := by
  have hfork := h.right.head
  rw [hlen] at hfork
  exact ⟨h.left, hfork⟩

theorem laid_plusOrNone (hlen : ∀ base next, (body base next).length = size) {base next : Nat}
    {lazy : Bool} (h : Laid steps base (plusOrNone lazy body size base next)) :
    steps[base]? = some (choose lazy (base + 1) (base + size + 2)) ∧
      Laid steps (base + 1) (plus lazy body size (base + 1) (base + size + 2)) ∧
      steps[base + size + 2]? = some (.pass next) := by
  have hpass := h.right.head
  rw [List.length_cons, plus, List.length_append, hlen, List.length_singleton, ← Nat.add_assoc]
    at hpass
  exact ⟨h.left.head, h.left.tail, hpass⟩

theorem laid_succ (hlen : ∀ base next, (body base next).length = size) {n base next : Nat}
    {lazy consumes : Bool}
    (h : Laid steps base (within ⟨n + 1, none, lazy⟩ consumes body size base next)) :
    Laid steps base (rounds body size n base) ∧
      Laid steps (base + n * size) (plus lazy body size (base + n * size) next) := by
  have hplus := h.right
  rw [length_rounds hlen] at hplus
  exact ⟨h.left, hplus⟩

section

variable (hlen : ∀ base next, (body base next).length = size)
  (hbody : ∀ base next, Laid steps base (body base next) → Carries steps step base next)

include hlen hbody

theorem rounds_carries (count base : Nat) (h : Laid steps base (rounds body size count base)) :
    Carries steps (Pattern.mustEnds step count) base (base + count * size) := by
  induction count generalizing base with
  | zero => simpa [Pattern.mustEnds] using @Carries.refl steps
  | succ count ih =>
    rw [rounds_succ] at h
    have hrest := h.right
    rw [hlen] at hrest
    have hnext : base + size + count * size = base + (count + 1) * size := by
      rw [Nat.add_mul]
      omega
    exact hnext ▸ (hbody _ _ h.left).seq (ih (base + size) hrest)

theorem options_carries (lazy : Bool) (count base leave : Nat)
    (hleave : leave = base + count * (size + 1))
    (h : Laid steps base (options lazy body size count base leave)) :
    Carries steps (Pattern.mayEnds step lazy count) base leave := by
  induction count generalizing base with
  | zero =>
    rw [Nat.zero_mul, Nat.add_zero] at hleave
    exact hleave ▸ Carries.refl
  | succ count ih =>
    rw [options_succ] at h
    have hround := hbody _ _ h.left.tail
    have hrest := h.right
    rw [List.length_cons, hlen, ← Nat.add_assoc, Nat.add_right_comm] at hrest
    have hnext := ih (base + 1 + size) (by rw [hleave, Nat.add_mul]; omega) hrest
    intro start spot behind hall
    rw [Pattern.mayEnds, Pattern.flatMap_prefer]
    refine Comes.choose h.left.head ?_ ?_
    · exact (hround.seq hnext) start spot behind
        fun found hf => hall found (Pattern.mem_prefer.mpr (.inl hf))
    · simpa using hall spot (Pattern.mem_prefer.mpr (.inr (List.mem_singleton_self spot)))

end

/-- A fork that every round comes back to, the body of which consumes something. The induction is on
the number of rounds that the rest of the text has room for. -/
theorem fork_carries {lazy : Bool} {entry round next : Nat}
    (hconsumes : ∀ spot, ∀ found ∈ step spot, found.1.rest.length < spot.1.rest.length)
    (hs : steps[entry]? = some (choose lazy round next)) (hround : Carries steps step round entry) :
    Carries steps (fun spot => Pattern.mayEnds step lazy spot.1.rest.length spot) entry next := by
  have main (fuel : Nat) : ∀ (start : Nat) (spot : Spot) (behind : Spot → List Match),
      spot.1.rest.length ≤ fuel →
      (∀ found ∈ Pattern.mayEnds step lazy fuel spot,
        Comes steps found.1 ⟨next, start, found.2⟩ (behind found)) →
      Comes steps spot.1 ⟨entry, start, spot.2⟩
        ((Pattern.mayEnds step lazy fuel spot).flatMap behind) := by
    induction fuel with
    | zero =>
      intro start spot behind hfuel hall
      have hnone : step spot = [] := by
        refine List.eq_nil_iff_forall_not_mem.mpr fun found hf => ?_
        have := hconsumes spot found hf
        omega
      have hdead := hround start spot behind (by simp [hnone])
      have honward := hall spot (by simp [Pattern.mayEnds])
      have := Comes.choose hs hdead honward
      simpa [hnone, Pattern.mayEnds] using this
    | succ fuel ih =>
      intro start spot behind hfuel hall
      rw [Pattern.mayEnds, Pattern.flatMap_prefer]
      refine Comes.choose hs ?_ ?_
      · rw [List.flatMap_assoc]
        refine hround start spot _ fun found hf => ih start found behind ?_ ?_
        · have := hconsumes spot found hf
          omega
        · intro last hl
          exact hall last (Pattern.mem_prefer.mpr (.inl (List.mem_flatMap.mpr ⟨found, hf, hl⟩)))
      · simpa using hall spot (Pattern.mem_prefer.mpr (.inr (List.mem_singleton_self spot)))
  intro start spot behind hall
  exact main _ start spot behind (Nat.le_refl _) hall

end Step

namespace Pattern

variable {steps : Array Step}

theorem char_carries {members : CharClass} {base next : Nat}
    (hs : steps[base]? = some (.read members next)) :
    Carries steps (char members).ends base next := by
  rintro start ⟨⟨pos, prev, rest⟩, slots⟩ behind h
  cases rest with
  | nil => exact ⟨0, Yields.misread hs rfl⟩
  | cons c rest =>
    by_cases hc : members.has c = true
    · simp only [ends, if_pos hc, List.flatMap_cons, List.flatMap_nil, List.append_nil] at h ⊢
      obtain ⟨depth, way⟩ := h _ (List.mem_singleton_self _)
      exact ⟨0, Yields.read hs hc way⟩
    · simp only [ends, if_neg hc, List.flatMap_nil]
      exact ⟨0, Yields.misread hs (by simpa using hc)⟩

theorem look_carries {condition : Look} {base next : Nat}
    (hs : steps[base]? = some (.check condition next)) :
    Carries steps (look condition).ends base next := by
  rintro start ⟨here, slots⟩ behind h
  by_cases hc : condition.holds here = true
  · simp only [ends, if_pos hc, List.flatMap_cons, List.flatMap_nil, List.append_nil] at h ⊢
    obtain ⟨depth, way⟩ := h _ (List.mem_singleton_self _)
    exact ⟨depth + 1, Yields.check hs hc way⟩
  · simp only [ends, if_neg hc, List.flatMap_nil]
    exact ⟨0, Yields.refuse hs (by simpa using hc)⟩

theorem group_carries {index : Nat} {body : Pattern} {base last next : Nat}
    (hfirst : steps[base]? = some (.note (slot index) (base + 1)))
    (hlast : steps[last]? = some (.note (slot index + 1) next))
    (hbody : Carries steps body.ends (base + 1) last) :
    Carries steps (group index body).ends base next := by
  rintro start ⟨here, slots⟩ behind h
  simp only [ends, List.flatMap_map]
  obtain ⟨depth, way⟩ := hbody start (here, (slot index, here.pos) :: slots)
    (fun spot => behind (spot.1, (slot index + 1, spot.1.pos) :: spot.2)) (by
      intro found hf
      obtain ⟨depth, way⟩ := h _ (List.mem_map.mpr ⟨found, hf, rfl⟩)
      exact ⟨depth + 1, Yields.note hlast way⟩)
  exact ⟨depth + 1, Yields.note hfirst way⟩

theorem alt_carries {first second : Pattern} {base left right next : Nat}
    (hs : steps[base]? = some (.fork left right))
    (h₁ : Carries steps first.ends left next) (h₂ : Carries steps second.ends right next) :
    Carries steps (alt first second).ends base next := by
  intro start spot behind h
  obtain ⟨depth₁, way₁⟩ := h₁ start spot behind
    fun found hf => h found (List.mem_append.mpr (.inl hf))
  obtain ⟨depth₂, way₂⟩ := h₂ start spot behind
    fun found hf => h found (List.mem_append.mpr (.inr hf))
  rw [ends, List.flatMap_append]
  exact ⟨_, Yields.fork hs way₁ way₂⟩

theorem repeated_carries {body : Pattern} {bounds : Bounds} {base next : Nat}
    (hbody : ∀ base next, Laid steps base (body.block base next) →
      Carries steps body.ends base next)
    (hsettled : bounds.most.isSome = true ∨ body.consumes = true)
    (h : Laid steps base ((repeated body bounds).block base next)) :
    Carries steps (repeated body bounds).ends base next := by
  obtain ⟨least, most, lazy⟩ := bounds
  simp only [block] at h
  have hlen := length_block body
  cases most with
  | some most =>
    obtain ⟨hmust, hmay, hpass⟩ := Step.laid_between hlen h
    have hrounds := Step.rounds_carries hlen hbody least base hmust
    have hoptions := Step.options_carries hlen hbody lazy (most - least) _ _ rfl hmay
    have hwhole := (hrounds.seq hoptions).seq (Carries.pass hpass)
    simpa only [Carries, ends, List.flatMap_singleton'] using hwhole
  | none =>
    have hconsumes : body.consumes = true := by simpa using hsettled
    have hshorter := ends_consumes hconsumes
    cases least with
    | zero =>
      simp only [Step.within, if_pos hconsumes, Step.loop] at h
      have hfork := Step.fork_carries hshorter h.head (hbody _ _ h.tail)
      simpa only [Carries, ends, mustEnds, List.flatMap_singleton] using hfork
    | succ n =>
      obtain ⟨hmust, hplus⟩ := Step.laid_succ hlen h
      obtain ⟨hround, hfork⟩ := Step.laid_plus hlen hplus
      have hrounds := Step.rounds_carries hlen hbody n base hmust
      have hlast := hbody _ _ hround
      have hwhole := (hrounds.seq hlast).seq (Step.fork_carries hshorter hfork hlast)
      simpa only [Carries, ends, mustEnds_succ] using hwhole

/-- The steps of a settled pattern lead through it in the ways that its ends list. -/
theorem block_carries (pattern : Pattern) (hsettled : pattern.settled = true) (base next : Nat)
    (h : Laid steps base (pattern.block base next)) : Carries steps pattern.ends base next := by
  induction pattern generalizing base next with
  | empty => exact Carries.pass h.head
  | char members => exact char_carries h.head
  | look condition => exact look_carries h.head
  | group index body ih =>
    have hlast := h.right.head
    rw [List.length_cons, length_block, ← Nat.add_assoc, Nat.add_right_comm] at hlast
    exact group_carries h.left.head hlast (ih hsettled _ _ h.left.tail)
  | seq first second ih₁ ih₂ =>
    obtain ⟨hs₁, hs₂⟩ := Bool.and_eq_true_iff.mp hsettled
    have hsecond := h.right
    rw [length_block] at hsecond
    exact (ih₁ hs₁ _ _ h.left).seq (ih₂ hs₂ _ _ hsecond)
  | alt first second ih₁ ih₂ =>
    obtain ⟨hs₁, hs₂⟩ := Bool.and_eq_true_iff.mp hsettled
    have hsecond := h.right
    rw [List.length_cons, length_block, ← Nat.add_assoc, Nat.add_right_comm] at hsecond
    exact alt_carries h.left.head (ih₁ hs₁ _ _ h.left.tail) (ih₂ hs₂ _ _ hsecond)
  | repeated body bounds ih =>
    obtain ⟨hs, hbounds⟩ := Bool.and_eq_true_iff.mp hsettled
    exact repeated_carries (ih hs) (Bool.or_eq_true_iff.mp hbounds) h

end Pattern

end Recast
