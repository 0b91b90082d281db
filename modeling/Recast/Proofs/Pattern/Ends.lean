import Recast.Pattern.Matching

/-! What a pattern matches, said without an automaton. `Pattern.ends` lists where a pattern may
end, most preferred first; a loop is followed as often as the text that remains allows. The list has
every end of any pattern, and its order is exact for settled patterns, in which the body of every
unbounded repetition consumes something. -/

namespace Recast

namespace Text

def lastFrom (prev : Option Char) : Text → Option Char
  | [] => prev
  | c :: rest => lastFrom (some c) rest

@[simp]
theorem lastFrom_append (prev : Option Char) (first second : Text) :
    lastFrom prev (first ++ second) = lastFrom (lastFrom prev first) second := by
  induction first generalizing prev with
  | nil => rfl
  | cons c first ih => exact ih (some c)

end Text

def Cursor.past (here : Cursor) (text : Text) : Cursor :=
  ⟨here.pos + text.length, Text.lastFrom here.prev text, here.rest.drop text.length⟩

def Cursor.ofPlace (text : Text) (place : Nat) : Cursor :=
  ⟨place, Text.lastFrom none (text.take place), text.drop place⟩

namespace Cursor

variable {text : Text} {place : Nat}

theorem ofPlace_succ {c : Char} {rest : Text} (h : text.drop place = c :: rest) :
    ofPlace text (place + 1) = ⟨place + 1, some c, rest⟩ := by
  have htake : text.take (place + 1) = text.take place ++ [c] := by
    rw [List.take_add, h, List.take_one, List.head?_cons]
    rfl
  have hdrop : text.drop (place + 1) = rest := by
    rw [← List.drop_drop, h]
    rfl
  rw [ofPlace, htake, hdrop, Text.lastFrom_append]
  rfl

theorem ofPlace_of_cons {pos : Nat} {prev : Option Char} {c : Char} {rest : Text}
    (h : ofPlace text pos = ⟨pos, prev, c :: rest⟩) :
    ofPlace text (pos + 1) = ⟨pos + 1, some c, rest⟩ :=
  ofPlace_succ (congrArg Cursor.rest h)

end Cursor

def Cursor.Reaches (here there : Cursor) : Prop :=
  ∃ text, here.rest = text ++ there.rest ∧ there = here.past text

namespace Cursor.Reaches

theorem refl (here : Cursor) : here.Reaches here :=
  ⟨[], rfl, rfl⟩

theorem trans {first second third : Cursor} (h₁ : first.Reaches second)
    (h₂ : second.Reaches third) : first.Reaches third := by
  obtain ⟨u, hu, hs⟩ := h₁
  obtain ⟨v, hv, ht⟩ := h₂
  refine ⟨u ++ v, by rw [hu, hv, List.append_assoc], ?_⟩
  rw [ht, hs]
  simp [past, Nat.add_assoc, List.drop_drop]

theorem length_le {here there : Cursor} (h : here.Reaches there) :
    there.rest.length ≤ here.rest.length := by
  obtain ⟨u, hu, _⟩ := h
  rw [hu, List.length_append]
  exact Nat.le_add_left _ _

end Cursor.Reaches

abbrev Spot := Cursor × List (Nat × Nat)

/-- The spot in a text that has more text in front of it, and with more held in the slots. -/
def Spot.shift (offset : Nat) (held : List (Nat × Nat)) (spot : Spot) : Spot :=
  (⟨offset + spot.1.pos, spot.1.prev, spot.1.rest⟩, spot.2.map (fun s => (s.1, offset + s.2)) ++ held)

namespace Pattern

def prefer (lazy : Bool) (round onward : List Spot) : List Spot :=
  if lazy then onward ++ round else round ++ onward

def mustEnds (step : Spot → List Spot) : Nat → Spot → List Spot
  | 0, spot => [spot]
  | n + 1, spot => (step spot).flatMap (mustEnds step n)

def mayEnds (step : Spot → List Spot) (lazy : Bool) : Nat → Spot → List Spot
  | 0, spot => [spot]
  | n + 1, spot => prefer lazy ((step spot).flatMap (mayEnds step lazy n)) [spot]

def ends : Pattern → Spot → List Spot
  | empty, spot => [spot]
  | char members, (here, slots) =>
    match here.rest with
    | [] => []
    | c :: rest => if members.has c then [(⟨here.pos + 1, some c, rest⟩, slots)] else []
  | look condition, (here, slots) => if condition.holds here then [(here, slots)] else []
  | group index body, (here, slots) =>
    (body.ends (here, (slot index, here.pos) :: slots)).map fun spot =>
      (spot.1, (slot index + 1, spot.1.pos) :: spot.2)
  | seq first second, spot => (first.ends spot).flatMap second.ends
  | alt first second, spot => first.ends spot ++ second.ends spot
  | repeated body bounds, spot =>
    (mustEnds body.ends bounds.least spot).flatMap fun spot =>
      mayEnds body.ends bounds.lazy
        (match bounds.most with
        | some most => most - bounds.least
        | none => spot.1.rest.length) spot

def settled : Pattern → Bool
  | empty => true
  | char _ => true
  | look _ => true
  | group _ body => body.settled
  | seq first second => first.settled && second.settled
  | alt first second => first.settled && second.settled
  | repeated body bounds =>
    body.settled && (bounds.most.isSome || body.consumes)

theorem mem_prefer {lazy : Bool} {round onward : List Spot} {spot : Spot} :
    spot ∈ prefer lazy round onward ↔ spot ∈ round ∨ spot ∈ onward := by
  unfold prefer
  cases lazy <;> simp [or_comm]

theorem mustEnds_length {step : Spot → List Spot} {n : Nat}
    (h : ∀ spot, ∀ found ∈ step spot, found.1.rest.length + n ≤ spot.1.rest.length) :
    ∀ count spot, ∀ found ∈ mustEnds step count spot,
      found.1.rest.length + n * count ≤ spot.1.rest.length := by
  intro count
  induction count with
  | zero =>
    intro spot found hf
    simp only [mustEnds, List.mem_singleton] at hf
    subst hf
    simp
  | succ count ih =>
    intro spot found hf
    obtain ⟨middle, hm, hf⟩ := List.mem_flatMap.mp hf
    have h₁ := h spot middle hm
    have h₂ := ih middle found hf
    rw [Nat.mul_succ]
    omega

section

variable {step : Spot → List Spot} {lazy : Bool}
  (h : ∀ spot, ∀ found ∈ step spot, spot.1.Reaches found.1)

include h

theorem mustEnds_reaches (count : Nat) :
    ∀ spot, ∀ found ∈ mustEnds step count spot, spot.1.Reaches found.1 := by
  induction count with
  | zero =>
    intro spot found hf
    rw [List.mem_singleton.mp hf]
    exact .refl _
  | succ count ih =>
    intro spot found hf
    obtain ⟨middle, hm, hf⟩ := List.mem_flatMap.mp hf
    exact (h spot middle hm).trans (ih middle found hf)

theorem mayEnds_reaches (count : Nat) :
    ∀ spot, ∀ found ∈ mayEnds step lazy count spot, spot.1.Reaches found.1 := by
  induction count with
  | zero =>
    intro spot found hf
    rw [List.mem_singleton.mp hf]
    exact .refl _
  | succ count ih =>
    intro spot found hf
    rcases mem_prefer.mp hf with hf | hf
    · obtain ⟨middle, hm, hf⟩ := List.mem_flatMap.mp hf
      exact (h spot middle hm).trans (ih middle found hf)
    · rw [List.mem_singleton.mp hf]
      exact .refl _

end

theorem ends_reaches (pattern : Pattern) :
    ∀ spot, ∀ found ∈ pattern.ends spot, spot.1.Reaches found.1 := by
  induction pattern with
  | empty =>
    intro spot found hf
    rw [List.mem_singleton.mp hf]
    exact .refl _
  | char members =>
    rintro ⟨⟨pos, prev, rest⟩, slots⟩ found hf
    cases rest with
    | nil => simp [ends] at hf
    | cons c rest =>
      simp only [ends] at hf
      split at hf
      · rw [List.mem_singleton.mp hf]
        exact ⟨[c], rfl, rfl⟩
      · simp at hf
  | look condition =>
    rintro ⟨here, slots⟩ found hf
    simp only [ends] at hf
    split at hf
    · rw [List.mem_singleton.mp hf]
      exact .refl _
    · simp at hf
  | group index body ih =>
    rintro ⟨here, slots⟩ found hf
    obtain ⟨middle, hm, rfl⟩ := List.mem_map.mp hf
    exact ih (here, (slot index, here.pos) :: slots) middle hm
  | seq first second ih₁ ih₂ =>
    intro spot found hf
    obtain ⟨middle, hm, hf⟩ := List.mem_flatMap.mp hf
    exact (ih₁ spot middle hm).trans (ih₂ middle found hf)
  | alt first second ih₁ ih₂ =>
    intro spot found hf
    rcases List.mem_append.mp hf with hf | hf
    · exact ih₁ spot found hf
    · exact ih₂ spot found hf
  | repeated body bounds ih =>
    intro spot found hf
    obtain ⟨middle, hm, hf⟩ := List.mem_flatMap.mp hf
    exact (mustEnds_reaches ih _ spot middle hm).trans (mayEnds_reaches ih _ middle found hf)

theorem ends_length (pattern : Pattern) : ∀ n, pattern.leastLength = some n →
    ∀ spot, ∀ found ∈ pattern.ends spot, found.1.rest.length + n ≤ spot.1.rest.length := by
  induction pattern with
  | empty =>
    intro n hn spot found hf
    obtain rfl : 0 = n := by simpa [leastLength] using hn
    exact (ends_reaches empty spot found hf).length_le
  | look condition =>
    intro n hn spot found hf
    obtain rfl : 0 = n := by simpa [leastLength] using hn
    exact (ends_reaches _ spot found hf).length_le
  | char members =>
    rintro n hn ⟨⟨pos, prev, rest⟩, slots⟩ found hf
    have hn' : n = 1 := by
      unfold leastLength at hn
      split at hn
      · cases hn
      · simpa using hn.symm
    subst n
    cases rest with
    | nil => simp [ends] at hf
    | cons c rest =>
      simp only [ends] at hf
      split at hf
      · rw [List.mem_singleton.mp hf]
        simp
      · simp at hf
  | group index body ih =>
    rintro n hn ⟨here, slots⟩ found hf
    obtain ⟨middle, hm, rfl⟩ := List.mem_map.mp hf
    exact ih n hn (here, (slot index, here.pos) :: slots) middle hm
  | seq first second ih₁ ih₂ =>
    intro n hn spot found hf
    obtain ⟨middle, hm, hf⟩ := List.mem_flatMap.mp hf
    simp only [leastLength, Option.bind_eq_bind, Option.bind_eq_some_iff, Option.pure_def,
      Option.some.injEq] at hn
    obtain ⟨a, ha, b, hb, rfl⟩ := hn
    have h₁ := ih₁ a ha spot middle hm
    have h₂ := ih₂ b hb middle found hf
    omega
  | alt first second ih₁ ih₂ =>
    intro n hn spot found hf
    simp only [leastLength, Option.bind_eq_bind, Option.bind_eq_some_iff, Option.pure_def,
      Option.some.injEq] at hn
    obtain ⟨a, ha, b, hb, rfl⟩ := hn
    rcases List.mem_append.mp hf with hf | hf
    · have := ih₁ a ha spot found hf
      omega
    · have := ih₂ b hb spot found hf
      omega
  | repeated body bounds ih =>
    intro n hn spot found hf
    simp only [leastLength, Option.map_eq_some_iff] at hn
    obtain ⟨a, ha, rfl⟩ := hn
    obtain ⟨middle, hm, hf⟩ := List.mem_flatMap.mp hf
    have h₁ := mustEnds_length (ih a ha) _ spot middle hm
    have h₂ := (mayEnds_reaches (ends_reaches body) _ middle found hf).length_le
    omega

theorem ends_consumes {pattern : Pattern} (h : pattern.consumes = true) (spot : Spot) :
    ∀ found ∈ pattern.ends spot, found.1.rest.length < spot.1.rest.length := by
  intro found hf
  unfold consumes at h
  obtain ⟨n, hn, hpos⟩ := (Option.any_eq_true _ _).mp h
  have hlen := ends_length pattern n hn spot found hf
  have : 0 < n := by simpa using hpos
  omega

theorem ends_nil_of_consumes {pattern : Pattern} (h : pattern.consumes = true) {spot : Spot}
    (hrest : spot.1.rest.length = 0) : pattern.ends spot = [] := by
  refine List.eq_nil_iff_forall_not_mem.mpr ?_
  intro found hf
  have := ends_consumes h spot found hf
  omega

section

variable {offset : Nat} {held : List (Nat × Nat)} {step : Spot → List Spot}

theorem mustEnds_shift
    (h : ∀ spot : Spot, step (spot.shift offset held) = (step spot).map (Spot.shift offset held))
    (n : Nat) (spot : Spot) :
    mustEnds step n (spot.shift offset held) =
      (mustEnds step n spot).map (Spot.shift offset held) := by
  induction n generalizing spot with
  | zero => rfl
  | succ n ih => simp only [mustEnds, h, List.flatMap_map, ih, List.map_flatMap]

theorem mayEnds_shift {lazy : Bool}
    (h : ∀ spot : Spot, step (spot.shift offset held) = (step spot).map (Spot.shift offset held))
    (n : Nat) (spot : Spot) :
    mayEnds step lazy n (spot.shift offset held) =
      (mayEnds step lazy n spot).map (Spot.shift offset held) := by
  induction n generalizing spot with
  | zero => rfl
  | succ n ih =>
    simp only [mayEnds, h, List.flatMap_map, ih]
    cases lazy <;> simp [prefer, List.map_flatMap]

end

/-- Where a pattern ends depends neither on the offset nor on what the slots held before. -/
theorem ends_shift (pattern : Pattern) (offset : Nat) (held : List (Nat × Nat)) (spot : Spot) :
    pattern.ends (spot.shift offset held) =
      (pattern.ends spot).map (Spot.shift offset held) := by
  induction pattern generalizing spot with
  | empty => rfl
  | char members =>
    obtain ⟨⟨pos, prev, rest⟩, slots⟩ := spot
    cases rest with
    | nil => rfl
    | cons c rest =>
      by_cases hc : members.has c = true <;> simp [ends, Spot.shift, hc, Nat.add_assoc]
  | look condition =>
    obtain ⟨here, slots⟩ := spot
    have hsame : condition.holds ⟨offset + here.pos, here.prev, here.rest⟩ =
        condition.holds here := by
      cases condition <;> rfl
    by_cases hc : condition.holds here = true <;> simp [ends, Spot.shift, hsame, hc]
  | group index body ih =>
    obtain ⟨here, slots⟩ := spot
    have hbody := ih (here, (slot index, here.pos) :: slots)
    simp only [Spot.shift, List.map_cons, List.cons_append] at hbody
    simp only [ends, Spot.shift, hbody, List.map_map]
    rfl
  | seq first second ih₁ ih₂ => simp only [ends, ih₁, List.flatMap_map, ih₂, List.map_flatMap]
  | alt first second ih₁ ih₂ => simp only [ends, ih₁, ih₂, List.map_append]
  | repeated body bounds ih =>
    simp only [ends, mustEnds_shift ih, List.flatMap_map, List.map_flatMap]
    exact congrArg (List.flatMap · _) (funext fun middle => mayEnds_shift ih _ middle)

theorem mustEnds_succ (step : Spot → List Spot) (n : Nat) (spot : Spot) :
    mustEnds step (n + 1) spot = (mustEnds step n spot).flatMap step := by
  induction n generalizing spot with
  | zero => simp [mustEnds]
  | succ n ih =>
    calc mustEnds step (n + 2) spot
        = (step spot).flatMap (mustEnds step (n + 1)) := rfl
      _ = (step spot).flatMap fun found => (mustEnds step n found).flatMap step := by
          exact congrArg (fun f => (step spot).flatMap f) (funext ih)
      _ = (mustEnds step (n + 1) spot).flatMap step := by
          rw [mustEnds, List.flatMap_assoc]

end Pattern

end Recast
