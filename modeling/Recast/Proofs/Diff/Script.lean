import Recast.Diff.Compact
import Recast.Diff.Search

/-! Where edit scripts lead. The script that the search finds leads from the old list to the new one,
whatever cuts it makes and however much fuel there is, and moving edits keeps where a script leads. Runs
of kept elements are never empty, so that two changes always have something between them. -/

namespace Recast.Diff

variable {α : Type}

structure Script.Leads (script : Script α) (old new : List α) : Prop where
  reads_old : script.old = old
  reads_new : script.new = new
  keeps_some : Run.keep [] ∉ script

namespace Script

@[simp]
theorem old_append (first second : Script α) : old (first ++ second) = old first ++ old second :=
  List.flatMap_append

@[simp]
theorem new_append (first second : Script α) : new (first ++ second) = new first ++ new second :=
  List.flatMap_append

namespace Leads

variable {first second : Script α} {old new old' new' : List α}

theorem nil : Leads ([] : Script α) [] [] := ⟨rfl, rfl, List.not_mem_nil⟩

theorem append (h : Leads first old new) (h' : Leads second old' new') :
    Leads (first ++ second) (old ++ old') (new ++ new') where
  reads_old := by rw [old_append, h.reads_old, h'.reads_old]
  reads_new := by rw [new_append, h.reads_new, h'.reads_new]
  keeps_some := fun hmem => (List.mem_append.mp hmem).elim h.keeps_some h'.keeps_some

theorem halves {x y : Nat} (h : Leads first (old.take x) (new.take y))
    (h' : Leads second (old.drop x) (new.drop y)) : Leads (first ++ second) old new := by
  have hwhole := h.append h'
  rwa [List.take_append_drop, List.take_append_drop] at hwhole

theorem delete (items : List α) : Leads [Run.delete items] items [] :=
  ⟨List.append_nil items, rfl, by simp⟩

theorem insert (items : List α) : Leads [Run.insert items] [] items :=
  ⟨rfl, List.append_nil items, by simp⟩

theorem keepUnlessEmpty (items : List α) : Leads (keepUnlessEmpty items) items items := by
  rw [Diff.keepUnlessEmpty]
  cases items with
  | nil => exact .nil
  | cons a items => exact ⟨List.append_nil _, List.append_nil _, by simp⟩

end Leads

end Script

section

variable [DecidableEq α] (old new : List α)

theorem take_sharedFront : old.take (sharedFront old new) = new.take (sharedFront old new) := by
  induction old generalizing new with
  | nil => simp [sharedFront]
  | cons a old ih =>
    cases new with
    | nil => simp [sharedFront]
    | cons b new =>
      rw [sharedFront]
      split
      next hab => rw [hab, List.take_succ_cons, List.take_succ_cons, ih]
      next => rw [List.take_zero, List.take_zero]

theorem sharedFront_le : sharedFront old new ≤ new.length := by
  induction old generalizing new with
  | nil => simp [sharedFront]
  | cons a old ih =>
    cases new with
    | nil => simp [sharedFront]
    | cons b new =>
      rw [sharedFront]
      split
      · exact Nat.succ_le_succ (ih new)
      · exact Nat.zero_le _

theorem drop_sharedBack : old.drop (old.length - sharedBack old new) =
    new.drop (new.length - sharedBack old new) := by
  have hreversed := take_sharedFront old.reverse new.reverse
  rw [List.take_reverse, List.take_reverse] at hreversed
  exact List.reverse_inj.mp hreversed

omit [DecidableEq α] in
/-- A script between what two lists do not share leads from the one to the other, with what they share
around it. -/
theorem leads_between {middle : Script α} {old new : List α} {front back : Nat}
    (hfront : old.take front = new.take front)
    (hback : (old.drop front).drop ((old.drop front).length - back) =
      (new.drop front).drop ((new.drop front).length - back))
    (h : Script.Leads middle ((old.drop front).take ((old.drop front).length - back))
      ((new.drop front).take ((new.drop front).length - back))) :
    Script.Leads (keepUnlessEmpty (old.take front) ++ middle ++
      keepUnlessEmpty ((old.drop front).drop ((old.drop front).length - back))) old new := by
  have hwhole := ((Script.Leads.keepUnlessEmpty (old.take front)).append h).append
    (Script.Leads.keepUnlessEmpty ((old.drop front).drop ((old.drop front).length - back)))
  have hold : old.take front ++ (old.drop front).take ((old.drop front).length - back) ++
      (old.drop front).drop ((old.drop front).length - back) = old := by
    rw [List.append_assoc, List.take_append_drop, List.take_append_drop]
  have hnew : old.take front ++ (new.drop front).take ((new.drop front).length - back) ++
      (old.drop front).drop ((old.drop front).length - back) = new := by
    rw [hback, hfront, List.append_assoc, List.take_append_drop, List.take_append_drop]
  rwa [hold, hnew] at hwhole

/-- The search leads from the old list to the new one. The cut between the halves may be anywhere. -/
theorem solve_leads (fuel : Nat) : ∀ (old new : List α) (forward backward : Frontier),
    Script.Leads (solve fuel old new forward backward).1 old new := by
  induction fuel with
  | zero =>
    intro old new forward backward
    have hleads := (Script.Leads.delete old).append (Script.Leads.insert new)
    rwa [List.append_nil, List.nil_append] at hleads
  | succ fuel ih =>
    intro old new forward backward
    simp only [solve]
    refine leads_between (take_sharedFront old new) (drop_sharedBack _ _) ?_
    split
    next hold hnew =>
      rw [hold, hnew]
      exact .nil
    next hold _ =>
      rw [hold]
      exact .insert _
    next hnew _ =>
      rw [hnew]
      exact .delete _
    next =>
      exact .halves (ih _ _ _ _) (ih _ _ _ _)

theorem script_leads : Script.Leads (script old new) old new :=
  solve_leads _ old new _ _

theorem sharedFront_self (items : List α) : sharedFront items items = items.length := by
  induction items with
  | nil => rfl
  | cons a items ih => rw [sharedFront, if_pos rfl, ih, List.length_cons]

theorem script_self (items : List α) : script items items = keepUnlessEmpty items := by
  simp [script, solve, sharedFront_self, sharedBack, keepUnlessEmpty]

end

namespace EditKind

variable {kind : EditKind} {run : Run α} {items : List α}

theorem eq_keep_of_sees (h : kind.sees run = .kept items) : run = .keep items := by
  cases kind <;> cases run <;> cases h <;> rfl

theorem eq_run_of_sees (h : kind.sees run = .same items) : run = kind.run items := by
  cases kind <;> cases run <;> cases h <;> rfl

theorem run_ne_keep (kind : EditKind) (items kept : List α) : kind.run items ≠ .keep kept := by
  cases kind <;> rintro ⟨⟩

end EditKind

/-- A way to read the runs of a script in which kept elements are read, and edits of one kind or those of
the other kind are not. -/
structure Reading (kind : EditKind) (read : Run α → List α) : Prop where
  keep : ∀ items, read (.keep items) = items
  append : ∀ first second, read (kind.run (first ++ second)) =
    read (kind.run first) ++ read (kind.run second)
  moves : (∀ items, read (kind.run items) = items) ∨ ∀ items, read (kind.run items) = []
  passes : ∀ run items, kind.sees run = .other →
    read run ++ read (kind.run items) = read (kind.run items) ++ read run

theorem reading_old (kind : EditKind) : Reading kind (Run.old : Run α → List α) where
  keep _ := rfl
  append _ _ := by cases kind <;> rfl
  moves := by
    cases kind
    · exact .inl fun _ => rfl
    · exact .inr fun _ => rfl
  passes run items h := by
    cases kind <;> cases run <;> cases h
    · exact (List.append_nil items).symm
    · exact List.append_nil _

theorem reading_new (kind : EditKind) : Reading kind (Run.new : Run α → List α) where
  keep _ := rfl
  append _ _ := by cases kind <;> rfl
  moves := by
    cases kind
    · exact .inr fun _ => rfl
    · exact .inl fun _ => rfl
  passes run items h := by
    cases kind <;> cases run <;> cases h
    · exact List.append_nil _
    · exact (List.append_nil items).symm

namespace Focus

section

variable {read : Run α → List α} (hkeep : ∀ items, read (.keep items) = items)
  (items : List α) (runs : List (Run α))

include hkeep

theorem flatMap_keepFirst : (keepFirst items runs).flatMap read = items ++ runs.flatMap read := by
  unfold keepFirst
  split <;> simp [hkeep]

theorem flatMap_keepLast :
    (keepLast items runs).reverse.flatMap read = runs.reverse.flatMap read ++ items := by
  unfold keepLast
  split <;> simp [hkeep]

theorem flatMap_putBack : (putBack items runs).flatMap read = items ++ runs.flatMap read := by
  unfold putBack
  cases items <;> simp [hkeep]

theorem flatMap_reverse_putBack :
    (putBack items runs).reverse.flatMap read = runs.reverse.flatMap read ++ items := by
  unfold putBack
  cases items <;> simp [hkeep]

end

section

variable {items : List α} {runs : List (Run α)} (h : Run.keep [] ∉ runs)

include h

theorem keepFirst_keeps_some (hne : items ≠ []) : Run.keep [] ∉ keepFirst items runs := by
  unfold keepFirst
  split
  · simp_all
  · simp_all

theorem keepLast_keeps_some (hne : items ≠ []) : Run.keep [] ∉ keepLast items runs := by
  unfold keepLast
  split
  · simp_all
  · simp_all

theorem putBack_keeps_some : Run.keep [] ∉ putBack items runs := by
  unfold putBack
  cases items with
  | nil => exact h
  | cons a items => simp [h]

end

variable {kind : EditKind}

def whole (kind : EditKind) (focus : Focus α) : Script α :=
  focus.before.reverse ++ kind.run focus.items :: focus.after

structure Follows (kind : EditKind) (first second : Focus α) : Prop where
  reads : ∀ {read : Run α → List α}, Reading kind read →
    (second.whole kind).flatMap read = (first.whole kind).flatMap read
  keeps_some : Run.keep [] ∉ first.whole kind → Run.keep [] ∉ second.whole kind

theorem keep_notin_whole {focus : Focus α} : Run.keep [] ∉ focus.whole kind ↔
    Run.keep [] ∉ focus.before ∧ Run.keep [] ∉ focus.after := by
  have hrun := (kind.run_ne_keep focus.items []).symm
  simp [whole, hrun]

namespace Follows

variable {first second third : Focus α} {before after : List (Run α)} {items more moved rest : List α}
  {run : Run α}

theorem refl (focus : Focus α) : Follows kind focus focus := ⟨fun _ => rfl, id⟩

theorem trans (h : Follows kind first second) (h' : Follows kind second third) :
    Follows kind first third :=
  ⟨fun hread => (h'.reads hread).trans (h.reads hread), h'.keeps_some ∘ h.keeps_some⟩

/-- Kept elements that the edit ends with are put behind it instead of before it. -/
theorem over_kept_up (hne : moved ≠ []) :
    Follows kind ⟨.keep (more ++ moved) :: before, rest ++ moved, after⟩
      ⟨putBack more before, moved ++ rest, keepFirst moved after⟩ where
  reads hread := by
    simp only [whole, List.flatMap_append, List.flatMap_cons, List.flatMap_nil, List.reverse_cons,
      flatMap_keepFirst hread.keep, flatMap_reverse_putBack hread.keep, hread.keep, List.append_nil]
    rcases hread.moves with hown | hnone
    · simp [hown]
    · simp [hnone]
  keeps_some h := by
    obtain ⟨hbefore, hafter⟩ := keep_notin_whole.mp h
    exact keep_notin_whole.mpr ⟨putBack_keeps_some (List.not_mem_of_not_mem_cons hbefore),
      keepFirst_keeps_some hafter hne⟩

theorem over_kept_down (hne : moved ≠ []) :
    Follows kind ⟨before, moved ++ rest, .keep (moved ++ more) :: after⟩
      ⟨keepLast moved before, rest ++ moved, putBack more after⟩ where
  reads hread := by
    simp only [whole, List.flatMap_append, List.flatMap_cons, flatMap_keepLast hread.keep,
      flatMap_putBack hread.keep, hread.keep]
    rcases hread.moves with hown | hnone
    · simp [hown]
    · simp [hnone]
  keeps_some h := by
    obtain ⟨hbefore, hafter⟩ := keep_notin_whole.mp h
    exact keep_notin_whole.mpr ⟨keepLast_keeps_some hbefore hne,
      putBack_keeps_some (List.not_mem_of_not_mem_cons hafter)⟩

theorem into_same_up : Follows kind ⟨kind.run more :: before, items, after⟩
    ⟨before, more ++ items, after⟩ where
  reads hread := by simp [whole, hread.append]
  keeps_some h := by
    obtain ⟨hbefore, hafter⟩ := keep_notin_whole.mp h
    exact keep_notin_whole.mpr ⟨List.not_mem_of_not_mem_cons hbefore, hafter⟩

theorem into_same_down : Follows kind ⟨before, items, kind.run more :: after⟩
    ⟨before, items ++ more, after⟩ where
  reads hread := by simp [whole, hread.append]
  keeps_some h := by
    obtain ⟨hbefore, hafter⟩ := keep_notin_whole.mp h
    exact keep_notin_whole.mpr ⟨hbefore, List.not_mem_of_not_mem_cons hafter⟩

theorem past_other_up (hother : kind.sees run = .other) :
    Follows kind ⟨run :: before, items, after⟩ ⟨before, items, run :: after⟩ where
  reads hread := by
    have hpasses := hread.passes run items hother
    simp only [whole, List.flatMap_append, List.flatMap_cons, List.flatMap_nil, List.reverse_cons,
      List.append_nil, List.append_assoc]
    rw [← List.append_assoc (_ : List α) (_ : List α) (after.flatMap _), ← hpasses,
      List.append_assoc]
  keeps_some h := by
    obtain ⟨hbefore, hafter⟩ := keep_notin_whole.mp h
    obtain ⟨hrun, hbefore⟩ := not_or.mp (mt List.mem_cons.mpr hbefore)
    exact keep_notin_whole.mpr ⟨hbefore, mt List.mem_cons.mp (not_or.mpr ⟨hrun, hafter⟩)⟩

theorem past_other_down (hother : kind.sees run = .other) :
    Follows kind ⟨before, items, run :: after⟩ ⟨run :: before, items, after⟩ where
  reads hread := ((past_other_up hother).reads hread).symm
  keeps_some h := by
    obtain ⟨hbefore, hafter⟩ := keep_notin_whole.mp h
    obtain ⟨hrun, hafter⟩ := not_or.mp (mt List.mem_cons.mpr hafter)
    exact keep_notin_whole.mpr ⟨mt List.mem_cons.mp (not_or.mpr ⟨hrun, hbefore⟩), hafter⟩

end Follows

variable [DecidableEq α]

theorem over_shared_back {before after : List (Run α)} {items kept : List α}
    (hn : sharedBack items kept ≠ 0) :
    Follows kind ⟨.keep kept :: before, items, after⟩
      ⟨putBack (kept.take (kept.length - sharedBack items kept)) before,
        kept.drop (kept.length - sharedBack items kept) ++
          items.take (items.length - sharedBack items kept),
        keepFirst (kept.drop (kept.length - sharedBack items kept)) after⟩ := by
  have hle := sharedFront_le items.reverse kept.reverse
  have hmoved : kept.drop (kept.length - sharedBack items kept) ≠ [] := by
    refine List.ne_nil_of_length_pos ?_
    rw [List.length_drop]
    rw [List.length_reverse] at hle
    unfold sharedBack at hn ⊢
    omega
  have hover := @Follows.over_kept_up α kind before after
    (kept.take (kept.length - sharedBack items kept))
    (kept.drop (kept.length - sharedBack items kept))
    (items.take (items.length - sharedBack items kept)) hmoved
  rwa [List.take_append_drop, ← drop_sharedBack items kept, List.take_append_drop,
    drop_sharedBack items kept] at hover

theorem over_shared_front {before after : List (Run α)} {items kept : List α}
    (hn : sharedFront items kept ≠ 0) :
    Follows kind ⟨before, items, .keep kept :: after⟩
      ⟨keepLast (kept.take (sharedFront items kept)) before,
        items.drop (sharedFront items kept) ++ kept.take (sharedFront items kept),
        putBack (kept.drop (sharedFront items kept)) after⟩ := by
  have hle := sharedFront_le items kept
  have hmoved : kept.take (sharedFront items kept) ≠ [] := by
    refine List.ne_nil_of_length_pos ?_
    rw [List.length_take]
    omega
  have hover := @Follows.over_kept_down α kind before after
    (kept.drop (sharedFront items kept)) (kept.take (sharedFront items kept))
    (items.drop (sharedFront items kept)) hmoved
  rwa [List.take_append_drop, ← take_sharedFront items kept, List.take_append_drop,
    take_sharedFront items kept] at hover

theorem up_follows (fuel : Nat) : ∀ focus : Focus α, Follows kind focus (up kind fuel focus) := by
  induction fuel with
  | zero => exact .refl
  | succ fuel ih =>
    rintro ⟨before, items, after⟩
    cases before with
    | nil => exact .refl _
    | cons run before =>
      cases hrun : kind.sees run with
      | other =>
        simp only [up, hrun]
        exact (Follows.past_other_up hrun).trans (ih _)
      | same more =>
        simp only [up, hrun]
        rw [EditKind.eq_run_of_sees hrun]
        exact Follows.into_same_up.trans (ih _)
      | kept kept =>
        simp only [up, hrun]
        rw [EditKind.eq_keep_of_sees hrun]
        split
        · exact .refl _
        next hn => exact (over_shared_back hn).trans (ih _)

theorem down_follows (fuel : Nat) : ∀ focus : Focus α,
    Follows kind focus (down kind fuel focus) := by
  induction fuel with
  | zero => exact .refl
  | succ fuel ih =>
    rintro ⟨before, items, after⟩
    cases after with
    | nil => exact .refl _
    | cons run after =>
      cases hrun : kind.sees run with
      | other =>
        simp only [down, hrun]
        exact (Follows.past_other_down hrun).trans (ih _)
      | same more =>
        simp only [down, hrun]
        rw [EditKind.eq_run_of_sees hrun]
        exact Follows.into_same_down.trans (ih _)
      | kept kept =>
        simp only [down, hrun]
        rw [EditKind.eq_keep_of_sees hrun]
        split
        · exact .refl _
        next hn => exact (over_shared_front hn).trans (ih _)

theorem settle_follows (focus : Focus α) : Follows kind focus (settle kind focus) :=
  (up_follows _ focus).trans (down_follows _ _)

end Focus

section

variable {kind : EditKind} {old new : List α}

theorem Focus.Follows.leads {first second : Focus α} (h : Focus.Follows kind first second)
    (hleads : Script.Leads (first.whole kind) old new) : Script.Leads (second.whole kind) old new where
  reads_old := (h.reads (reading_old kind)).trans hleads.reads_old
  reads_new := (h.reads (reading_new kind)).trans hleads.reads_new
  keeps_some := h.keeps_some hleads.keeps_some

theorem focusNext_whole {before after : List (Run α)} {focus : Focus α}
    (h : focusNext kind before after = some focus) :
    focus.whole kind = before.reverse ++ after := by
  induction after generalizing before with
  | nil => cases h
  | cons run after ih =>
    rw [focusNext] at h
    split at h
    next items hsame =>
      rw [← Option.some.inj h, EditKind.eq_run_of_sees hsame]
      rfl
    all_goals
      rw [ih h]
      simp

variable [DecidableEq α]

theorem settleAll_leads (fuel : Nat) : ∀ before after : List (Run α),
    Script.Leads (before.reverse ++ after) old new →
      Script.Leads (settleAll kind fuel before after) old new := by
  induction fuel with
  | zero => exact fun _ _ h => h
  | succ fuel ih =>
    intro before after h
    rw [settleAll]
    cases hfocus : focusNext kind before after with
    | none => exact h
    | some focus =>
      rw [← focusNext_whole hfocus] at h
      have hsettled := (focus.settle_follows).leads h
      refine ih _ _ ?_
      rw [List.reverse_cons, List.append_assoc]
      exact hsettled

/-- Moving edits together keeps where a script leads. -/
theorem compact_leads {script : Script α} (h : Script.Leads script old new) :
    Script.Leads (compact script) old new :=
  settleAll_leads _ [] _ (settleAll_leads _ [] _ h)

end

end Recast.Diff
