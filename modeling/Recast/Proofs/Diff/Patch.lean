import Recast.Diff.Hunk

/-! Applying hunks. The line numbers and the counts of every hunk and all lines that it does not insert
have to agree with the list that it is applied to, and its line numbers on the other side with what it
gives. Hunks that fit between two lists lead from the one to the other, and flipped they lead back. -/

namespace Recast.Diff

variable {α : Type}

namespace HunkLine

def old : HunkLine α → List α
  | context line => [line]
  | delete line => [line]
  | insert _ => []

def new : HunkLine α → List α
  | context line => [line]
  | delete _ => []
  | insert line => [line]

def flip : HunkLine α → HunkLine α
  | context line => context line
  | delete line => insert line
  | insert line => delete line

@[simp]
theorem old_flip (line : HunkLine α) : line.flip.old = line.new := by cases line <;> rfl

@[simp]
theorem new_flip (line : HunkLine α) : line.flip.new = line.old := by cases line <;> rfl

def item : HunkLine α → α
  | context line => line
  | delete line => line
  | insert line => line

variable (line : HunkLine α)

theorem item_mem : line.item ∈ line.old ∨ line.item ∈ line.new := by
  cases line with
  | context line => exact .inl List.mem_cons_self
  | delete line => exact .inl List.mem_cons_self
  | insert line => exact .inr List.mem_cons_self

theorem length_pos : 0 < line.old.length + line.new.length := by
  cases line with
  | context line => exact Nat.zero_lt_two
  | delete line => exact Nat.one_pos
  | insert line => exact Nat.one_pos

end HunkLine

namespace Hunk

variable (hunk : Hunk α)

def old : List α := hunk.lines.flatMap HunkLine.old

def new : List α := hunk.lines.flatMap HunkLine.new

def flip : Hunk α :=
  ⟨hunk.newStart, hunk.newSize, hunk.oldStart, hunk.oldSize, hunk.lines.map HunkLine.flip⟩

@[simp]
theorem old_flip : hunk.flip.old = hunk.new := by
  simp [old, new, flip, List.flatMap_map]

@[simp]
theorem new_flip : hunk.flip.new = hunk.old := by
  simp [old, new, flip, List.flatMap_map]

structure Sized : Prop where
  oldSize : hunk.oldSize = hunk.old.length
  newSize : hunk.newSize = hunk.new.length

end Hunk

/-- Applies hunks to what is left of a list from index `i` on, where what they give begins at index
`j`. -/
def applyHunks [DecidableEq α] : Nat → Nat → List α → List (Hunk α) → Option (List α)
  | _, _, rest, [] => some rest
  | i, j, rest, hunk :: more =>
    let kept := rest.take (hunk.oldStart - i)
    let behind := rest.drop (hunk.oldStart - i)
    if hunk.oldStart = i + kept.length ∧ hunk.newStart = j + kept.length ∧
        hunk.oldSize = hunk.old.length ∧ hunk.newSize = hunk.new.length ∧
        hunk.old <+: behind then
      (applyHunks (hunk.oldStart + hunk.oldSize) (hunk.newStart + hunk.newSize)
        (behind.drop hunk.oldSize) more).map fun out => kept ++ (hunk.new ++ out)
    else none

/-- Hunks that lead from what is left of a list from index `i` on to what is left of another one from
index `j` on. What stands between hunks is the same on both sides. -/
inductive Fits : Nat → Nat → List α → List α → List (Hunk α) → Prop where
  | done (i j : Nat) (rest : List α) : Fits i j rest rest []
  | hunk {i j : Nat} {kept old new : List α} {hunk : Hunk α} {more : List (Hunk α)}
    (oldStart : hunk.oldStart = i + kept.length) (newStart : hunk.newStart = j + kept.length)
    (oldSize : hunk.oldSize = hunk.old.length) (newSize : hunk.newSize = hunk.new.length)
    (rest : Fits (hunk.oldStart + hunk.oldSize) (hunk.newStart + hunk.newSize) old new more) :
    Fits i j (kept ++ (hunk.old ++ old)) (kept ++ (hunk.new ++ new)) (hunk :: more)

namespace Fits

variable {i j : Nat} {old new : List α} {hunks : List (Hunk α)}

theorem apply [DecidableEq α] (h : Fits i j old new hunks) : applyHunks i j old hunks = some new := by
  induction h with
  | done => rfl
  | @hunk i j kept old new hunk more oldStart newStart oldSize newSize _ ih =>
    have hstart : hunk.oldStart - i = kept.length := by omega
    rw [applyHunks]
    simp only [hstart, List.take_left, List.drop_left]
    rw [if_pos ⟨oldStart, newStart, oldSize, newSize, List.prefix_append _ _⟩, oldSize,
      List.drop_left, ← oldSize, ih, Option.map_some]

theorem flip (h : Fits i j old new hunks) : Fits j i new old (hunks.map Hunk.flip) := by
  induction h with
  | done => exact .done _ _ _
  | @hunk i j kept old new hunk more oldStart newStart oldSize newSize _ ih =>
    have hflip := @Fits.hunk α j i kept new old hunk.flip (more.map Hunk.flip) newStart oldStart
      (by rw [Hunk.old_flip]; exact newSize) (by rw [Hunk.new_flip]; exact oldSize) ih
    rwa [Hunk.old_flip, Hunk.new_flip] at hflip

theorem eq_of_nil (h : Fits i j old new []) : old = new := by
  cases h
  rfl

theorem sized (h : Fits i j old new hunks) : ∀ hunk ∈ hunks, hunk.Sized := by
  induction h with
  | done => exact List.forall_mem_nil _
  | hunk _ _ oldSize newSize _ ih => exact List.forall_mem_cons.mpr ⟨⟨oldSize, newSize⟩, ih⟩

theorem mem_old (h : Fits i j old new hunks) : ∀ hunk ∈ hunks, ∀ item ∈ hunk.old, item ∈ old := by
  induction h with
  | done => exact List.forall_mem_nil _
  | hunk _ _ _ _ _ ih =>
    refine List.forall_mem_cons.mpr ⟨fun item hitem => ?_, fun hunk hhunk item hitem => ?_⟩
    · exact List.mem_append_right _ (List.mem_append_left _ hitem)
    · exact List.mem_append_right _ (List.mem_append_right _ (ih hunk hhunk item hitem))

theorem mem_new (h : Fits i j old new hunks) : ∀ hunk ∈ hunks, ∀ item ∈ hunk.new, item ∈ new := by
  intro hunk hhunk item hitem
  rw [← Hunk.old_flip] at hitem
  exact h.flip.mem_old _ (List.mem_map_of_mem hhunk) item hitem

theorem item_mem (h : Fits i j old new hunks) {hunk : Hunk α} (hhunk : hunk ∈ hunks)
    {line : HunkLine α} (hline : line ∈ hunk.lines) : line.item ∈ old ∨ line.item ∈ new :=
  line.item_mem.imp
    (fun hold => h.mem_old hunk hhunk _ (List.mem_flatMap.mpr ⟨line, hline, hold⟩))
    (fun hnew => h.mem_new hunk hhunk _ (List.mem_flatMap.mpr ⟨line, hline, hnew⟩))

end Fits

end Recast.Diff
