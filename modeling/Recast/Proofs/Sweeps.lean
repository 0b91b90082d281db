import Recast.Proofs.Pattern.Ends

/-! A sweep from place to place. What it collects from a place on is given by what the probe says there:
nothing more, the same as from the next place, or a hit and what it collects where that hit leads. -/

namespace Recast

variable {α : Type} {probe : Bool → Cursor → Probe α}

theorem sweepFrom_skipped (skipped rest : Text) : ∀ (behind : Bool) (pos : Nat) (prev : Option Char),
    sweepFrom probe skipped.length behind pos prev (skipped ++ rest) =
      sweepFrom probe 0 behind (pos + skipped.length) (Text.lastFrom prev skipped) rest := by
  induction skipped with
  | nil => exact fun _ _ _ => rfl
  | cons c skipped ih =>
    intro behind pos prev
    have hnext : pos + 1 + skipped.length = pos + (c :: skipped).length := by
      rw [List.length_cons]
      omega
    rw [← hnext]
    exact ih behind (pos + 1) (some c)

/-- Behind a hit that reaches over some characters, a sweep goes on where they end. -/
theorem sweepFrom_hit {found : α} {reached rest : Text} {behind : Bool} {pos : Nat}
    {prev : Option Char} (hne : reached ≠ [])
    (h : probe behind ⟨pos, prev, reached ++ rest⟩ = .hit found (pos + reached.length)) :
    sweepFrom probe 0 behind pos prev (reached ++ rest) =
      found :: sweepFrom probe 0 true (pos + reached.length) (Text.lastFrom prev reached) rest := by
  obtain ⟨c, more, rfl⟩ := List.exists_cons_of_ne_nil hne
  have hlater : ¬ pos + (c :: more).length ≤ pos := by
    rw [List.length_cons]
    omega
  have hskip : pos + (c :: more).length - pos - 1 = more.length := by
    rw [List.length_cons]
    omega
  have hnext : pos + 1 + more.length = pos + (c :: more).length := by
    rw [List.length_cons]
    omega
  rw [List.cons_append] at h ⊢
  simp only [sweepFrom, h, if_neg hlater, hskip]
  rw [sweepFrom_skipped, hnext, Text.lastFrom]

theorem sweepFrom_halt {behind : Bool} {pos : Nat} {prev : Option Char} {rest : Text}
    (h : probe behind ⟨pos, prev, rest⟩ = .halt) : sweepFrom probe 0 behind pos prev rest = [] := by
  cases rest <;> simp only [sweepFrom, h]

def sweepAt (probe : Bool → Cursor → Probe α) (behind : Bool) (text : Text) (place : Nat) : List α :=
  sweepFrom probe 0 behind place (Text.lastFrom none (text.take place)) (text.drop place)

variable {behind : Bool} {text : Text} {place resume : Nat} {found : α}

theorem sweepAt_halt (h : probe behind (Cursor.ofPlace text place) = .halt) :
    sweepAt probe behind text place = [] :=
  sweepFrom_halt h

theorem sweepAt_miss (hplace : place < text.length)
    (h : probe behind (Cursor.ofPlace text place) = .miss) :
    sweepAt probe behind text place = sweepAt probe false text (place + 1) := by
  obtain ⟨c, rest, hrest⟩ : ∃ c rest, text.drop place = c :: rest :=
    List.exists_cons_of_ne_nil (by simpa using hplace)
  have hnext := congrArg Cursor.prev (Cursor.ofPlace_succ hrest)
  have hdrop := congrArg Cursor.rest (Cursor.ofPlace_succ hrest)
  simp only [Cursor.ofPlace] at h hnext hdrop
  rw [hrest] at h
  rw [sweepAt, sweepAt, hnext, hdrop, hrest]
  simp only [sweepFrom, h]

theorem sweepAt_end (hplace : text.length ≤ place)
    (h : probe behind (Cursor.ofPlace text place) = .miss) :
    sweepAt probe behind text place = [] := by
  have hrest : text.drop place = [] := List.drop_eq_nil_iff.mpr hplace
  rw [Cursor.ofPlace, hrest] at h
  rw [sweepAt, hrest]
  simp only [sweepFrom, h]

theorem sweepAt_hit (hplace : place < resume) (hend : resume ≤ text.length)
    (h : probe behind (Cursor.ofPlace text place) = .hit found resume) :
    sweepAt probe behind text place = found :: sweepAt probe true text resume := by
  obtain ⟨reached, hsplit, hreached⟩ : ∃ reached,
      text.drop place = reached ++ text.drop resume ∧ reached.length = resume - place := by
    refine ⟨(text.drop place).take (resume - place), ?_, ?_⟩
    · rw [← Nat.add_sub_cancel' (Nat.le_of_lt hplace), ← List.drop_drop, Nat.add_sub_cancel_left,
        List.take_append_drop]
    · rw [List.length_take, List.length_drop]
      omega
  have hgo : place + reached.length = resume := by omega
  have hne : reached ≠ [] := by
    rintro rfl
    rw [List.length_nil] at hreached
    omega
  have htake : text.take resume = text.take place ++ reached := by
    rw [← hgo, List.take_add, hsplit, List.take_left]
  have hprobe : probe behind
      ⟨place, Text.lastFrom none (text.take place), reached ++ text.drop resume⟩ =
        .hit found (place + reached.length) := by
    rw [hgo, ← hsplit]
    exact h
  rw [sweepAt, hsplit, sweepFrom_hit hne hprobe, sweepAt, htake, Text.lastFrom_append, hgo]

theorem exists_place_of_mem_sweepFrom (rest : Text) : ∀ {skip pos : Nat} {behind : Bool}
    {prev : Option Char}, Cursor.ofPlace text pos = ⟨pos, prev, rest⟩ → pos ≤ text.length →
      found ∈ sweepFrom probe skip behind pos prev rest →
        ∃ behind place resume, place ≤ text.length ∧
          probe behind (Cursor.ofPlace text place) = .hit found resume := by
  induction rest with
  | nil =>
    intro skip pos behind prev hhere hpos hfound
    cases skip with
    | succ skip => cases hfound
    | zero =>
      rw [sweepFrom] at hfound
      split at hfound
      next hp => exact ⟨_, pos, _, hpos, by rw [hhere, hp, List.mem_singleton.mp hfound]⟩
      all_goals cases hfound
  | cons c rest ih =>
    intro skip pos behind prev hhere hpos hfound
    have hlt : pos < text.length := by
      have hrest : text.drop pos = c :: rest := congrArg Cursor.rest hhere
      refine Nat.lt_of_not_le fun hle => ?_
      rw [List.drop_eq_nil_iff.mpr hle] at hrest
      cases hrest
    have further {skip : Nat} {behind : Bool}
        (h : found ∈ sweepFrom probe skip behind (pos + 1) (some c) rest) :
        ∃ behind place resume, place ≤ text.length ∧
          probe behind (Cursor.ofPlace text place) = .hit found resume :=
      ih (Cursor.ofPlace_of_cons hhere) hlt h
    cases skip with
    | succ skip => exact further hfound
    | zero =>
      rw [sweepFrom] at hfound
      split at hfound
      next => exact further hfound
      next => cases hfound
      next hp =>
        split at hfound
        all_goals
          rcases List.mem_cons.mp hfound with rfl | hfound
          · exact ⟨_, pos, _, hpos, by rw [hhere, hp]⟩
          · exact further hfound

theorem exists_place_of_mem_sweep (h : found ∈ sweep probe text) :
    ∃ behind place resume, place ≤ text.length ∧
      probe behind (Cursor.ofPlace text place) = .hit found resume :=
  exists_place_of_mem_sweepFrom text rfl (Nat.zero_le _) h

end Recast
