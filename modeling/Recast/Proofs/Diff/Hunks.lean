import Recast.Diff
import Recast.Proofs.Diff.Patch
import Recast.Proofs.Diff.Script

/-! Hunks fit between the lists that they were made from. The changes of a script cut both lists into
stretches that agree and stretches that may differ, in turn. A hunk takes up changes as long as their
surroundings would touch, so behind it there are at least as many agreeing elements as the next hunk
needs before its first change. -/

namespace Recast.Diff

variable {α : Type}

/-- The changes ahead of a place, by its indices and by what is left of both lists from there. What
stands before a change is the same on both sides; before the first one it passes a test, and before any
other one it is not empty. -/
inductive Ahead : (List α → Prop) → Nat → Nat → List α → List α → List Change → Prop where
  | done {test : List α → Prop} (i j : Nat) (rest : List α) : Ahead test i j rest rest []
  | change {test : List α → Prop} {i j : Nat} {kept gone come old new : List α} {change : Change}
    {more : List Change} (hkept : test kept)
    (oldStart : change.oldStart = i + kept.length) (newStart : change.newStart = j + kept.length)
    (oldStop : change.oldStop = change.oldStart + gone.length)
    (newStop : change.newStop = change.newStart + come.length)
    (rest : Ahead (· ≠ []) change.oldStop change.newStop old new more) :
    Ahead test i j (kept ++ (gone ++ old)) (kept ++ (come ++ new)) (change :: more)

namespace Ahead

variable {test other : List α → Prop} {i j : Nat} {old new : List α} {change : Change}
  {changes more : List Change}

theorem eq_of_nil (h : Ahead test i j old new []) : old = new := by
  cases h
  rfl

theorem before (items : List α) (htest : ∀ kept, test kept → other (items ++ kept))
    (h : Ahead test (i + items.length) (j + items.length) old new changes) :
    Ahead other i j (items ++ old) (items ++ new) changes := by
  cases h with
  | done => exact .done _ _ _
  | @change _ _ _ kept gone come old new change more hkept oldStart newStart oldStop newStop rest =>
    have hwhole := @Ahead.change α other i j (items ++ kept) gone come old new change more
      (htest kept hkept) (by rw [oldStart, List.length_append]; omega)
      (by rw [newStart, List.length_append]; omega) oldStop newStop rest
    simpa only [List.append_assoc] using hwhole

end Ahead

structure Continues (old new : List α) (change : Change) (found : List Change) : Prop where
  stops : ∃ gone come oldRest newRest more, old = gone ++ oldRest ∧ new = come ++ newRest ∧
    found = ⟨change.oldStart, change.oldStop + gone.length, change.newStart,
      change.newStop + come.length⟩ :: more ∧
    Ahead (· ≠ []) (change.oldStop + gone.length) (change.newStop + come.length) oldRest newRest more

namespace Continues

variable {i j : Nat} {old new : List α} {change : Change} {found more : List Change}

theorem stop (h : Ahead (· ≠ []) change.oldStop change.newStop old new more) :
    Continues old new change (change :: more) :=
  ⟨[], [], old, new, more, rfl, rfl, rfl, h⟩

theorem delete {items : List α}
    (h : Continues old new { change with oldStop := change.oldStop + items.length } found) :
    Continues (items ++ old) new change found := by
  obtain ⟨gone, come, oldRest, newRest, more, hold, hnew, hfound, hahead⟩ := h.stops
  refine ⟨items ++ gone, come, oldRest, newRest, more, ?_, hnew, ?_, ?_⟩
  · rw [hold, List.append_assoc]
  · rw [List.length_append, ← Nat.add_assoc]
    exact hfound
  · rw [List.length_append, ← Nat.add_assoc]
    exact hahead

theorem insert {items : List α}
    (h : Continues old new { change with newStop := change.newStop + items.length } found) :
    Continues old (items ++ new) change found := by
  obtain ⟨gone, come, oldRest, newRest, more, hold, hnew, hfound, hahead⟩ := h.stops
  refine ⟨gone, items ++ come, oldRest, newRest, more, hold, ?_, ?_, ?_⟩
  · rw [hnew, List.append_assoc]
  · rw [List.length_append, ← Nat.add_assoc]
    exact hfound
  · rw [List.length_append, ← Nat.add_assoc]
    exact hahead

theorem ahead (h : Continues old new ⟨i, i, j, j⟩ found) : Ahead (fun _ => True) i j old new found := by
  obtain ⟨gone, come, oldRest, newRest, more, rfl, rfl, rfl, hahead⟩ := h.stops
  exact @Ahead.change α _ i j [] gone come oldRest newRest _ more trivial rfl rfl rfl rfl hahead

end Continues

/-- The changes of a script are ahead of the place where it begins. A change that is open there goes
on. -/
theorem changesFrom_ahead (script : Script α) (hkeeps : Run.keep [] ∉ script) :
    (∀ i j, Ahead (fun _ => True) i j script.old script.new (changesFrom i j none script)) ∧
      ∀ change : Change, Continues script.old script.new change
        (changesFrom change.oldStop change.newStop (some change) script) := by
  induction script with
  | nil => exact ⟨fun i j => .done i j [], fun change => .stop (.done _ _ _)⟩
  | cons run script ih =>
    obtain ⟨hrun, hscript⟩ := not_or.mp (mt List.mem_cons.mpr hkeeps)
    obtain ⟨ihClosed, ihOpen⟩ := ih hscript
    cases run with
    | keep items =>
      have hne : items ≠ [] := by
        rintro rfl
        exact hrun rfl
      refine ⟨fun i j => .before items (fun _ _ => trivial) (ihClosed _ _), fun change => .stop ?_⟩
      exact .before items (fun _ _ => List.append_ne_nil_of_left_ne_nil hne _) (ihClosed _ _)
    | delete items =>
      have hopen : ∀ change, Continues (items ++ (Script.old script)) (Script.new script) change _ :=
        fun change => .delete (ihOpen { change with oldStop := change.oldStop + items.length })
      exact ⟨fun i j => (hopen ⟨i, i, j, j⟩).ahead, hopen⟩
    | insert items =>
      have hopen : ∀ change, Continues (Script.old script) (items ++ (Script.new script)) change _ :=
        fun change => .insert (ihOpen { change with newStop := change.newStop + items.length })
      exact ⟨fun i j => (hopen ⟨i, i, j, j⟩).ahead, hopen⟩

theorem changes_ahead {script : Script α} {old new : List α} (h : Script.Leads script old new) :
    Ahead (fun _ => True) 0 0 old new (changes script) := by
  have hahead := (changesFrom_ahead script h.keeps_some).1 0 0
  rwa [h.reads_old, h.reads_new] at hahead

theorem exists_append_of_length_le {items : List α} {n : Nat} (h : n ≤ items.length) :
    ∃ first second, items = first ++ second ∧ first.length = n :=
  ⟨_, _, (List.take_append_drop n items).symm, List.length_take_of_le h⟩

structure Stretch (items : List α) (start stop : Nat) (part : List α) : Prop where
  reads : items.drop start = part ++ items.drop stop
  stop_eq : stop = start + part.length

namespace Stretch

variable {items part first second rest : List α} {start middle stop : Nat}

theorem of_drop (h : items.drop start = part ++ rest) :
    Stretch items start (start + part.length) part where
  reads := by rw [← List.drop_drop, h, List.drop_left]
  stop_eq := rfl

theorem take {n : Nat} (h : n ≤ (items.drop start).length) :
    Stretch items start (start + n) ((items.drop start).take n) where
  reads := by rw [← List.drop_drop, List.take_append_drop]
  stop_eq := by rw [List.length_take, Nat.min_eq_left h]

theorem between_eq (h : Stretch items start stop part) : between items start stop = part := by
  rw [between, h.reads, h.stop_eq, Nat.add_sub_cancel_left, List.take_left]

theorem append (h : Stretch items start middle first) (h' : Stretch items middle stop second) :
    Stretch items start stop (first ++ second) where
  reads := by rw [h.reads, h'.reads, List.append_assoc]
  stop_eq := by rw [h'.stop_eq, h.stop_eq, List.length_append, Nat.add_assoc]

theorem left (h : Stretch items start stop (first ++ second)) :
    Stretch items start (start + first.length) first :=
  of_drop (h.reads.trans (List.append_assoc _ _ _))

theorem right (h : Stretch items start stop (first ++ second)) :
    Stretch items (start + first.length) stop second where
  reads := by rw [← List.drop_drop, h.reads, List.append_assoc, List.drop_left]
  stop_eq := by rw [h.stop_eq, List.length_append, Nat.add_assoc]

theorem length_le (h : Stretch items start stop part) :
    part.length ≤ items.length - start := by
  have hlength := congrArg List.length h.reads
  rw [List.length_drop, List.length_append] at hlength
  omega

end Stretch

structure Next (old new : List α) (i j : Nat) (kept : List α) (change : Change) (more : List Change) :
    Prop where
  oldKept : Stretch old i change.oldStart kept
  newKept : Stretch new j change.newStart kept
  gone : ∃ gone, Stretch old change.oldStart change.oldStop gone
  come : ∃ come, Stretch new change.newStart change.newStop come
  ahead : Ahead (· ≠ []) change.oldStop change.newStop (old.drop change.oldStop)
    (new.drop change.newStop) more

section

variable {old new : List α} {i j : Nat} {change : Change} {more : List Change}

theorem Ahead.next {test : List α → Prop}
    (h : Ahead test i j (old.drop i) (new.drop j) (change :: more)) :
    ∃ kept, test kept ∧ Next old new i j kept change more := by
  generalize hold : old.drop i = oldRest at h
  generalize hnew : new.drop j = newRest at h
  cases h with
  | @change _ _ _ kept gone come oldRest newRest _ _ hkept oldStart newStart oldStop newStop rest =>
    have holdKept := oldStart ▸ Stretch.of_drop hold
    have hnewKept := newStart ▸ Stretch.of_drop hnew
    have hgone : old.drop change.oldStart = gone ++ oldRest := by
      rw [oldStart, ← List.drop_drop, hold, List.drop_left]
    have hcome : new.drop change.newStart = come ++ newRest := by
      rw [newStart, ← List.drop_drop, hnew, List.drop_left]
    have holdRest : old.drop change.oldStop = oldRest := by
      rw [oldStop, ← List.drop_drop, hgone, List.drop_left]
    have hnewRest : new.drop change.newStop = newRest := by
      rw [newStop, ← List.drop_drop, hcome, List.drop_left]
    refine ⟨kept, hkept, holdKept, hnewKept, ⟨gone, ?_⟩, ⟨come, ?_⟩, ?_⟩
    · exact oldStop ▸ Stretch.of_drop hgone
    · exact newStop ▸ Stretch.of_drop hcome
    · rwa [holdRest, hnewRest]

/-- A later place before the same change, when what is kept from there passes another test. -/
theorem Next.ahead_after {test : List α → Prop} {first second : List α}
    (h : Next old new i j (first ++ second) change more) (htest : test second) :
    Ahead test (i + first.length) (j + first.length) (old.drop (i + first.length))
      (new.drop (j + first.length)) (change :: more) := by
  obtain ⟨gone, hgone⟩ := h.gone
  obtain ⟨come, hcome⟩ := h.come
  rw [h.oldKept.right.reads, h.newKept.right.reads, hgone.reads, hcome.reads]
  exact .change htest h.oldKept.right.stop_eq h.newKept.right.stop_eq hgone.stop_eq hcome.stop_eq
    h.ahead

end

section

variable {old new : List α} {i j : Nat} {lines : List (HunkLine α)} {last : Change}
  {rest : List Change}

structure Gathered (old new : List α) (i j : Nat) (lines : List (HunkLine α)) (last : Change)
    (rest : List Change) : Prop where
  oldLines : Stretch old i last.oldStop (lines.flatMap HunkLine.old)
  newLines : Stretch new j last.newStop (lines.flatMap HunkLine.new)
  ahead : Ahead (· ≠ []) last.oldStop last.newStop (old.drop last.oldStop) (new.drop last.newStop) rest
  apart : ∀ next ∈ rest.head?, touches old new last next = false

@[simp]
theorem flatMap_old_context (items : List α) :
    (items.map HunkLine.context).flatMap HunkLine.old = items := by
  simp [List.flatMap_map, HunkLine.old]

@[simp]
theorem flatMap_new_context (items : List α) :
    (items.map HunkLine.context).flatMap HunkLine.new = items := by
  simp [List.flatMap_map, HunkLine.new]

theorem flatMap_old_changeLines {change : Change} {gone : List α}
    (h : Stretch old change.oldStart change.oldStop gone) :
    (changeLines old new change).flatMap HunkLine.old = gone := by
  simp [changeLines, List.flatMap_map, HunkLine.old, h.between_eq]

theorem flatMap_new_changeLines {change : Change} {come : List α}
    (h : Stretch new change.newStart change.newStop come) :
    (changeLines old new change).flatMap HunkLine.new = come := by
  simp [changeLines, List.flatMap_map, HunkLine.new, h.between_eq]

theorem Gathered.keep {kept : List α} {i' j' : Nat} (hold : Stretch old i i' kept)
    (hnew : Stretch new j j' kept) (h : Gathered old new i' j' lines last rest) :
    Gathered old new i j (kept.map HunkLine.context ++ lines) last rest where
  oldLines := by
    rw [List.flatMap_append, flatMap_old_context]
    exact hold.append h.oldLines
  newLines := by
    rw [List.flatMap_append, flatMap_new_context]
    exact hnew.append h.newLines
  ahead := h.ahead
  apart := h.apart

theorem Gathered.change {change : Change} {gone come : List α}
    (hgone : Stretch old change.oldStart change.oldStop gone)
    (hcome : Stretch new change.newStart change.newStop come)
    (h : Gathered old new change.oldStop change.newStop lines last rest) :
    Gathered old new change.oldStart change.newStart (changeLines old new change ++ lines) last
      rest where
  oldLines := by
    rw [List.flatMap_append, flatMap_old_changeLines hgone]
    exact hgone.append h.oldLines
  newLines := by
    rw [List.flatMap_append, flatMap_new_changeLines hcome]
    exact hcome.append h.newLines
  ahead := h.ahead
  apart := h.apart

theorem Gathered.single {change : Change} {gone come : List α} {more : List Change}
    (hgone : Stretch old change.oldStart change.oldStop gone)
    (hcome : Stretch new change.newStart change.newStop come)
    (hahead : Ahead (· ≠ []) change.oldStop change.newStop (old.drop change.oldStop)
      (new.drop change.newStop) more)
    (hapart : ∀ next ∈ more.head?, touches old new change next = false) :
    Gathered old new change.oldStart change.newStart (changeLines old new change) change more where
  oldLines := (flatMap_old_changeLines hgone).symm ▸ hgone
  newLines := (flatMap_new_changeLines hcome).symm ▸ hcome
  ahead := hahead
  apart := hapart

theorem gapLines_eq {kept : List α} {last next : Change} {more : List Change}
    (h : Next old new last.oldStop last.newStop kept next more) :
    gapLines new last next = kept.map HunkLine.context := by
  have hgap : last.newStop + min (next.oldStart - last.oldStop) (next.newStart - last.newStop) =
      next.newStart := by
    rw [h.oldKept.stop_eq, h.newKept.stop_eq]
    omega
  rw [gapLines, hgap, h.newKept.between_eq]

theorem hunkLines_gathered {change : Change} {gone come : List α} {more : List Change}
    (hgone : Stretch old change.oldStart change.oldStop gone)
    (hcome : Stretch new change.newStart change.newStop come)
    (hahead : Ahead (· ≠ []) change.oldStop change.newStop (old.drop change.oldStop)
      (new.drop change.newStop) more) :
    Gathered old new change.oldStart change.newStart (hunkLines old new change more).1
      (hunkLines old new change more).2.1 (hunkLines old new change more).2.2 := by
  induction more generalizing change gone come with
  | nil => exact .single hgone hcome hahead (by rintro next ⟨⟩)
  | cons next more ih =>
    rw [hunkLines]
    split
    next htouches =>
      obtain ⟨kept, -, hnext⟩ := hahead.next
      obtain ⟨gone', hgone'⟩ := hnext.gone
      obtain ⟨come', hcome'⟩ := hnext.come
      simp only [gapLines_eq hnext, List.append_assoc]
      exact .change hgone hcome (.keep hnext.oldKept hnext.newKept (ih hgone' hcome' hnext.ahead))
    next htouches => exact .single hgone hcome hahead (by simpa using htouches)

theorem hunkLines_rest_length_le (old new : List α) (change : Change) (more : List Change) :
    (hunkLines old new change more).2.2.length ≤ more.length := by
  induction more generalizing change with
  | nil => exact Nat.le_refl _
  | cons next more ih =>
    rw [hunkLines]
    split
    · exact Nat.le_succ_of_le (ih next)
    · exact Nat.le_refl _

/-- What is kept before the next change is enough for the context of a hunk, or goes back to the first
line. -/
def Roomy (i j : Nat) (kept : List α) : Prop := contextSize ≤ kept.length ∨ i = 0 ∧ j = 0

/-- Behind the last change of a hunk, the lines that close it are kept, and the next hunk has room. -/
theorem Gathered.close (h : Gathered old new i j lines last rest) :
    ∃ closing, Stretch old last.oldStop (last.oldStop + trailing old new last) closing ∧
      Stretch new last.newStop (last.newStop + trailing old new last) closing ∧
      Ahead (Roomy (last.oldStop + trailing old new last) (last.newStop + trailing old new last))
        (last.oldStop + trailing old new last) (last.newStop + trailing old new last)
        (old.drop (last.oldStop + trailing old new last))
        (new.drop (last.newStop + trailing old new last)) rest := by
  cases rest with
  | nil =>
    have heq := h.ahead.eq_of_nil
    have holdTail : trailing old new last ≤ (old.drop last.oldStop).length := by
      rw [List.length_drop, trailing]
      omega
    have hnewTail : trailing old new last ≤ (new.drop last.newStop).length := heq ▸ holdTail
    refine ⟨_, .take holdTail, heq ▸ .take hnewTail, ?_⟩
    rw [← List.drop_drop, ← List.drop_drop, heq]
    exact .done _ _ _
  | cons next more =>
    obtain ⟨kept, hne, hnext⟩ := h.ahead.next
    have hpos : 0 < kept.length := List.length_pos_iff.mpr hne
    have hold := hnext.oldKept.length_le
    have hnew := hnext.newKept.length_le
    have hstart := hnext.oldKept.stop_eq
    have hapart := h.apart next rfl
    have hroom : trailing old new last + contextSize ≤ kept.length := by
      unfold touches trailing contextSize at hapart
      unfold trailing contextSize
      have hapart := of_decide_eq_false hapart
      omega
    obtain ⟨closing, kept, rfl, hclosing⟩ := exists_append_of_length_le (Nat.le_of_add_right_le hroom)
    rw [List.length_append, hclosing] at hroom
    rw [← hclosing]
    exact ⟨closing, hnext.oldKept.left, hnext.newKept.left,
      hnext.ahead_after (.inl (by omega))⟩

theorem Fits.of_stretches {before : List α} {hunk : Hunk α} {hunks : List (Hunk α)}
    (holdBefore : Stretch old i hunk.oldStart before)
    (hnewBefore : Stretch new j hunk.newStart before)
    (hold : Stretch old hunk.oldStart (hunk.oldStart + hunk.oldSize) hunk.old)
    (hnew : Stretch new hunk.newStart (hunk.newStart + hunk.newSize) hunk.new)
    (hrest : Fits (hunk.oldStart + hunk.oldSize) (hunk.newStart + hunk.newSize)
      (old.drop (hunk.oldStart + hunk.oldSize)) (new.drop (hunk.newStart + hunk.newSize)) hunks) :
    Fits i j (old.drop i) (new.drop j) (hunk :: hunks) := by
  rw [holdBefore.reads, hnewBefore.reads, hold.reads, hnew.reads]
  exact .hunk holdBefore.stop_eq hnewBefore.stop_eq (Nat.add_left_cancel hold.stop_eq)
    (Nat.add_left_cancel hnew.stop_eq) hrest

/-- The hunk at a change fits between both lists from a place on, if the hunks behind it do. -/
theorem hunkAt_fits {first : Change} {more : List Change} {hunks : List (Hunk α)}
    (h : Ahead (Roomy i j) i j (old.drop i) (new.drop j) (first :: more))
    (hrest : ∀ i' j', Ahead (Roomy i' j') i' j' (old.drop i') (new.drop j')
      (hunkAt old new first more).2 → Fits i' j' (old.drop i') (new.drop j') hunks) :
    Fits i j (old.drop i) (new.drop j) ((hunkAt old new first more).1 :: hunks) := by
  obtain ⟨kept, hroomy, hnext⟩ := h.next
  obtain ⟨gone, hgone⟩ := hnext.gone
  obtain ⟨come, hcome⟩ := hnext.come
  obtain ⟨before, leading, rfl, hbefore⟩ :=
    exists_append_of_length_le (Nat.sub_le kept.length contextSize)
  have holdStart : first.oldStart - contextSize = i + before.length := by
    have := hnext.oldKept.stop_eq
    rcases hroomy with hroom | ⟨rfl, rfl⟩ <;> omega
  have hnewStart : first.newStart - contextSize = j + before.length := by
    have := hnext.newKept.stop_eq
    rcases hroomy with hroom | ⟨rfl, rfl⟩ <;> omega
  have hgathered := Gathered.keep hnext.oldKept.right hnext.newKept.right
    (hunkLines_gathered hgone hcome hnext.ahead)
  rcases hlines : hunkLines old new first more with ⟨lines, last, rest⟩
  rw [hlines] at hgathered
  dsimp only at hgathered
  obtain ⟨closing, hclosing, hclosing', hahead⟩ := hgathered.close
  have hold := hgathered.oldLines.append hclosing
  have hnew := hgathered.newLines.append hclosing'
  have holdSize : i + before.length + (last.oldStop + trailing old new last - (i + before.length)) =
      last.oldStop + trailing old new last := by
    have := hold.stop_eq
    omega
  have hnewSize : j + before.length + (last.newStop + trailing old new last - (j + before.length)) =
      last.newStop + trailing old new last := by
    have := hnew.stop_eq
    omega
  simp only [hunkAt, hlines, holdStart, hnewStart, hnext.newKept.right.between_eq,
    hclosing'.between_eq] at hrest ⊢
  refine .of_stretches hnext.oldKept.left hnext.newKept.left ?_ ?_ ?_
  · simpa only [Hunk.old, List.flatMap_append, flatMap_old_context, holdSize] using hold
  · simpa only [Hunk.new, List.flatMap_append, flatMap_new_context, hnewSize] using hnew
  · simpa only [holdSize, hnewSize] using hrest _ _ hahead

theorem hunkAt_rest_length_le (old new : List α) (first : Change) (more : List Change) :
    (hunkAt old new first more).2.length ≤ more.length :=
  hunkLines_rest_length_le old new first more

theorem hunksOf_fits (fuel : Nat) {changes : List Change} (hfuel : changes.length ≤ fuel)
    (h : Ahead (Roomy i j) i j (old.drop i) (new.drop j) changes) :
    Fits i j (old.drop i) (new.drop j) (hunksOf old new fuel changes) := by
  induction fuel generalizing i j changes with
  | zero =>
    obtain rfl := List.eq_nil_of_length_eq_zero (Nat.le_zero.mp hfuel)
    rw [h.eq_of_nil]
    exact .done _ _ _
  | succ fuel ih =>
    cases changes with
    | nil =>
      rw [h.eq_of_nil]
      exact .done _ _ _
    | cons first more =>
      refine hunkAt_fits h fun i' j' hahead => ih ?_ hahead
      exact Nat.le_trans (hunkAt_rest_length_le old new first more) (Nat.le_of_succ_le_succ hfuel)

end

/-- The hunks between two texts lead from the lines of the one to those of the other. -/
theorem hunks_fit (old new : Text) : Fits 0 0 (Text.lines old) (Text.lines new) (hunks old new) := by
  have hleads := compact_leads (script_leads (Text.lines old) (Text.lines new))
  have hahead : Ahead (Roomy 0 0) 0 0 (Text.lines old) (Text.lines new) _ :=
    (changes_ahead hleads).before [] fun _ _ => .inr ⟨rfl, rfl⟩
  exact hunksOf_fits (i := 0) (j := 0) _ (Nat.le_refl _) hahead

theorem changes_script_self [DecidableEq α] (items : List α) :
    changes (compact (script items items)) = [] := by
  rw [script_self]
  cases items with
  | nil => rfl
  | cons a items => rfl

theorem hunks_eq_nil_iff (old new : Text) : hunks old new = [] ↔ old = new := by
  constructor
  · intro hnil
    have hfit := hunks_fit old new
    rw [hnil] at hfit
    rw [← Text.flatten_lines old, ← Text.flatten_lines new, hfit.eq_of_nil]
  · rintro rfl
    rw [hunks, changes_script_self]
    rfl

end Recast.Diff
