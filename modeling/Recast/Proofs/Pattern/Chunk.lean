import Recast.Proofs.Pattern.Occurs

/-! Matching inside a known piece of a text whose continuation is unknown. `Pattern.endsIn?` answers
only when no way through the pattern looks past the end of the piece; its answer then holds whatever
follows. With it, what a rewriting makes of a known piece can be computed. -/

namespace Recast

def Spot.grow (tail : Text) (spot : Spot) : Spot :=
  (⟨spot.1.pos, spot.1.prev, spot.1.rest ++ tail⟩, spot.2)

namespace Pattern

def gather (step : Spot → Option (List Spot)) : List Spot → Option (List Spot)
  | [] => some []
  | spot :: more => do
    let found ← step spot
    let others ← gather step more
    pure (found ++ others)

def mustEndsIn? (step : Spot → Option (List Spot)) : Nat → Spot → Option (List Spot)
  | 0, spot => some [spot]
  | n + 1, spot => do
    let found ← step spot
    gather (mustEndsIn? step n) found

/-- The ends of rounds that may be made. Without a bound on their number there is no answer when the
count runs out. -/
def mayEndsIn? (step : Spot → Option (List Spot)) (lazy bounded : Bool) :
    Nat → Spot → Option (List Spot)
  | 0, spot => if bounded then some [spot] else none
  | n + 1, spot => do
    let found ← step spot
    let onward ← gather (mayEndsIn? step lazy bounded n) found
    pure (prefer lazy onward [spot])

/-- Where a pattern may end that begins in a piece of text, unless this depends on what follows. -/
def endsIn? : Pattern → Spot → Option (List Spot)
  | empty, spot => some [spot]
  | char members, (here, slots) =>
    match here.rest with
    | [] => none
    | c :: rest => some (if members.has c then [(⟨here.pos + 1, some c, rest⟩, slots)] else [])
  | look condition, (here, slots) =>
    if here.rest.isEmpty then none
    else some (if condition.holds here then [(here, slots)] else [])
  | group index body, (here, slots) => do
    let found ← body.endsIn? (here, (slot index, here.pos) :: slots)
    pure (found.map fun spot => (spot.1, (slot index + 1, spot.1.pos) :: spot.2))
  | seq first second, spot => do
    let found ← first.endsIn? spot
    gather second.endsIn? found
  | alt first second, spot => do
    let found ← first.endsIn? spot
    let others ← second.endsIn? spot
    pure (found ++ others)
  | repeated body bounds, spot => do
    let found ← mustEndsIn? body.endsIn? bounds.least spot
    gather (fun spot =>
      match bounds.most with
      | some most => mayEndsIn? body.endsIn? bounds.lazy true (most - bounds.least) spot
      | none => mayEndsIn? body.endsIn? bounds.lazy false spot.1.rest.length spot) found

section

variable {step? : Spot → Option (List Spot)} {step : Spot → List Spot} {tail : Text}

theorem gather_grow (h : ∀ spot found, step? spot = some found →
      step (spot.grow tail) = found.map (Spot.grow tail)) :
    ∀ {spots found : List Spot}, gather step? spots = some found →
      (spots.map (Spot.grow tail)).flatMap step = found.map (Spot.grow tail) := by
  intro spots
  induction spots with
  | nil =>
    intro found hf
    obtain rfl : [] = found := by simpa [gather] using hf
    rfl
  | cons spot more ih =>
    intro found hf
    simp only [gather, Option.bind_eq_bind, Option.bind_eq_some_iff, Option.pure_def,
      Option.some.injEq] at hf
    obtain ⟨first, hfirst, others, hothers, rfl⟩ := hf
    simp [h spot first hfirst, ih hothers]

theorem mustEndsIn?_grow (h : ∀ spot found, step? spot = some found →
      step (spot.grow tail) = found.map (Spot.grow tail)) (n : Nat) :
    ∀ spot found, mustEndsIn? step? n spot = some found →
      mustEnds step n (spot.grow tail) = found.map (Spot.grow tail) := by
  induction n with
  | zero =>
    intro spot found hf
    obtain rfl : [spot] = found := by simpa [mustEndsIn?] using hf
    rfl
  | succ n ih =>
    intro spot found hf
    simp only [mustEndsIn?, Option.bind_eq_bind, Option.bind_eq_some_iff] at hf
    obtain ⟨first, hfirst, hrest⟩ := hf
    rw [mustEnds, h spot first hfirst]
    exact gather_grow ih hrest

theorem mayEndsIn?_grow {lazy bounded : Bool} (h : ∀ spot found, step? spot = some found →
      step (spot.grow tail) = found.map (Spot.grow tail)) (n : Nat) :
    ∀ count spot found, (n = count ∨ bounded = false ∧ n ≤ count) →
      mayEndsIn? step? lazy bounded n spot = some found →
      mayEnds step lazy count (spot.grow tail) = found.map (Spot.grow tail) := by
  induction n with
  | zero =>
    intro count spot found hcount hf
    cases bounded with
    | false => simp [mayEndsIn?] at hf
    | true =>
      obtain rfl : 0 = count := by simpa using hcount
      obtain rfl : [spot] = found := by simpa [mayEndsIn?] using hf
      rfl
  | succ n ih =>
    intro count spot found hcount hf
    obtain ⟨count, rfl⟩ : ∃ m, count = m + 1 := ⟨count - 1, by omega⟩
    simp only [mayEndsIn?, Option.bind_eq_bind, Option.bind_eq_some_iff, Option.pure_def,
      Option.some.injEq] at hf
    obtain ⟨first, hfirst, onward, honward, rfl⟩ := hf
    have hless : n = count ∨ bounded = false ∧ n ≤ count :=
      hcount.imp Nat.succ.inj fun h => ⟨h.1, Nat.le_of_succ_le_succ h.2⟩
    have hround := gather_grow (fun spot found => ih count spot found hless) honward
    rw [mayEnds, h spot first hfirst, hround]
    cases lazy <;> simp [prefer]

end

theorem endsIn?_grow (pattern : Pattern) (tail : Text) :
    ∀ spot found, pattern.endsIn? spot = some found →
      pattern.ends (spot.grow tail) = found.map (Spot.grow tail) := by
  induction pattern with
  | empty =>
    intro spot found hf
    obtain rfl : [spot] = found := by simpa [endsIn?] using hf
    rfl
  | char members =>
    rintro ⟨⟨pos, prev, rest⟩, slots⟩ found hf
    cases rest with
    | nil => simp [endsIn?] at hf
    | cons c rest =>
      simp only [endsIn?, Option.some.injEq] at hf
      subst hf
      by_cases hc : members.has c = true <;> simp [ends, Spot.grow, hc]
  | look condition =>
    rintro ⟨⟨pos, prev, rest⟩, slots⟩ found hf
    cases rest with
    | nil => simp [endsIn?] at hf
    | cons c rest =>
      obtain rfl : (if condition.holds ⟨pos, prev, c :: rest⟩
          then [((⟨pos, prev, c :: rest⟩ : Cursor), slots)] else []) = found := by
        simpa [endsIn?] using hf
      have hsame : condition.holds ⟨pos, prev, c :: (rest ++ tail)⟩ =
          condition.holds ⟨pos, prev, c :: rest⟩ := by
        cases condition <;> rfl
      by_cases hc : condition.holds ⟨pos, prev, c :: rest⟩ = true <;>
        simp [ends, Spot.grow, hsame, hc]
  | group index body ih =>
    rintro ⟨here, slots⟩ found hf
    simp only [endsIn?, Option.bind_eq_bind, Option.bind_eq_some_iff, Option.pure_def,
      Option.some.injEq] at hf
    obtain ⟨inner, hinner, rfl⟩ := hf
    have := ih _ inner hinner
    simp only [Spot.grow] at this
    simp only [ends, Spot.grow, this, List.map_map]
    rfl
  | seq first second ih₁ ih₂ =>
    intro spot found hf
    simp only [endsIn?, Option.bind_eq_bind, Option.bind_eq_some_iff] at hf
    obtain ⟨middle, hmiddle, hrest⟩ := hf
    rw [ends, ih₁ spot middle hmiddle]
    exact gather_grow ih₂ hrest
  | alt first second ih₁ ih₂ =>
    intro spot found hf
    simp only [endsIn?, Option.bind_eq_bind, Option.bind_eq_some_iff, Option.pure_def,
      Option.some.injEq] at hf
    obtain ⟨left, hleft, right, hright, rfl⟩ := hf
    rw [ends, ih₁ spot left hleft, ih₂ spot right hright, List.map_append]
  | repeated body bounds ih =>
    intro spot found hf
    simp only [endsIn?, Option.bind_eq_bind, Option.bind_eq_some_iff] at hf
    obtain ⟨middle, hmiddle, hrest⟩ := hf
    rw [ends, mustEndsIn?_grow ih bounds.least spot middle hmiddle]
    refine gather_grow ?_ hrest
    intro spot found hf
    cases hmost : bounds.most with
    | some most =>
      simp only [hmost] at hf
      exact mayEndsIn?_grow ih _ _ spot found (.inl rfl) hf
    | none =>
      simp only [hmost] at hf
      exact mayEndsIn?_grow ih _ _ spot found (.inr ⟨rfl, by simp [Spot.grow]⟩) hf

def widthIn? (pattern : Pattern) (prev : Option Char) (chunk : Text) : Option (Option Nat) :=
  (pattern.endsIn? (⟨0, prev, chunk⟩, [])).map fun found => found.head?.map (·.1.pos)

theorem width?_of_widthIn? {pattern : Pattern} {prev : Option Char} {chunk : Text}
    {width : Option Nat} (h : pattern.widthIn? prev chunk = some width) (tail : Text) :
    pattern.width? prev (chunk ++ tail) = width := by
  obtain ⟨found, hf, rfl⟩ := Option.map_eq_some_iff.mp h
  have hends := endsIn?_grow pattern tail _ found hf
  simp only [Spot.grow] at hends
  rw [width?, hends, List.head?_map, Option.map_map]
  rfl

def rewriteIn? (pattern : Pattern) (new : Text → Text) : Nat → Option Char → Text → Option Text
  | 0, _, [] => some []
  | _ + 1, _, [] => none
  | skip + 1, _, c :: rest => pattern.rewriteIn? new skip (some c) rest
  | 0, prev, c :: rest =>
    match pattern.widthIn? prev (c :: rest) with
    | none => none
    | some none => (pattern.rewriteIn? new 0 (some c) rest).map (c :: ·)
    | some (some n) =>
      if n ≤ rest.length + 1 then
        (pattern.rewriteIn? new (n - 1) (some c) rest).map (new ((c :: rest).take n) ++ ·)
      else none

/-- A rewriting treats a piece of text on its own if no match looks past its end. -/
theorem rewriteFrom_of_rewriteIn? {pattern : Pattern} {new : Text → Text} (tail : Text)
    (chunk : Text) : ∀ {skip : Nat} {prev : Option Char} {out : Text},
    pattern.rewriteIn? new skip prev chunk = some out →
      pattern.rewriteFrom new skip prev (chunk ++ tail) =
        out ++ pattern.rewriteFrom new 0 (Text.lastFrom prev chunk) tail := by
  induction chunk with
  | nil =>
    intro skip prev out h
    cases skip with
    | zero =>
      obtain rfl : [] = out := by simpa [rewriteIn?] using h
      rfl
    | succ skip => simp [rewriteIn?] at h
  | cons c rest ih =>
    intro skip prev out h
    cases skip with
    | succ skip => exact @ih skip (some c) out h
    | zero =>
      unfold rewriteIn? at h
      cases hw : pattern.widthIn? prev (c :: rest) with
      | none => simp [hw] at h
      | some width =>
        have hwidth := width?_of_widthIn? hw tail
        simp only [List.cons_append] at hwidth ⊢
        cases width with
        | none =>
          simp only [hw, Option.map_eq_some_iff] at h
          obtain ⟨out, hout, rfl⟩ := h
          rw [rewriteFrom, hwidth]
          exact congrArg (c :: ·) (ih hout)
        | some n =>
          simp only [hw] at h
          split at h
          · next hn =>
            obtain ⟨out, hout, rfl⟩ := Option.map_eq_some_iff.mp h
            have htake : (c :: (rest ++ tail)).take n = (c :: rest).take n := by
              rw [← List.cons_append, List.take_append_of_le_length hn]
            rw [rewriteFrom, hwidth, List.append_assoc]
            simp only [htake]
            exact congrArg (new ((c :: rest).take n) ++ ·) (ih hout)
          · cases h

theorem passes_of_rewriteIn? {pattern : Pattern} {new : Text → Text} {prev : Option Char}
    {chunk out : Text} (h : pattern.rewriteIn? new 0 prev chunk = some out) :
    pattern.Passes new prev chunk out := by
  intro tail
  exact rewriteFrom_of_rewriteIn? tail chunk h

def quietIn (pattern : Pattern) : Option Char → Text → Bool
  | _, [] => true
  | prev, c :: rest =>
    pattern.widthIn? prev (c :: rest) = some none && pattern.quietIn (some c) rest

theorem quiet_of_quietIn {pattern : Pattern} {prev : Option Char} {chunk : Text}
    (h : pattern.quietIn prev chunk = true) : pattern.Quiet prev chunk := by
  induction chunk generalizing prev with
  | nil => exact .nil
  | cons c rest ih =>
    rw [quietIn, Bool.and_eq_true, decide_eq_true_eq] at h
    intro left right tail heq hne
    cases left with
    | nil =>
      obtain rfl : c :: rest = right := heq
      exact width?_of_widthIn? h.1 tail
    | cons d left =>
      obtain ⟨rfl, rfl⟩ := List.cons.inj heq
      exact ih h.2 left right tail rfl hne

end Pattern

end Recast
