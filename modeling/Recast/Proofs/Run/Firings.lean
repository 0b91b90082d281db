import Recast.Proofs.RuleSet
import Recast.Proofs.Run.Account

/-! The rules that a summary lists. The entry of a target lists the rules that fired on the text which
was there at the target's turn, whatever they gave in the end. So an entry may say that nothing changed
and still list rules: it does exactly if they gave the text back that they were given. Rule sets that
settle never give a text back that they have changed on the way. -/

namespace Recast

variable {σ ε : Type}

namespace RuleSet

/-- Rules fire on the text, and what they give in the end is the text again. -/
def Cancels (set : RuleSet) (text : Text) : Prop :=
  (set.apply text).content = text ∧ (set.apply text).fired ≠ []

theorem Settles.not_cancels {set : RuleSet} (h : set.Settles) (text : Text) : ¬ set.Cancels text := by
  rintro ⟨hsame, hfired⟩
  have hquiet := h text
  rw [hsame] at hquiet
  rw [hquiet] at hfired
  exact hfired rfl

end RuleSet

namespace Progress

inductive Entry (progress : Progress σ) (root : Text) (target : Target) : FileResult → Prop where
  | missing (h : progress.tree.isFile (Path.join root target.path) = false) :
    Entry progress root target ⟨target.path, .missing, []⟩
  | read {old : Text} {status : Status}
    (read : progress.tree.read (Path.join root target.path) = .ok old) (found : status ≠ .missing)
    (same : status = .unchanged ↔ (target.rules.apply old).content = old) :
    Entry progress root target ⟨target.path, status, (target.rules.apply old).fired⟩

theorem unchanged_ofText {rules : RuleSet} {old : Text} :
    (Revision.ofText rules old).changed = false ↔ (rules.apply old).content = old := by
  rw [← Bool.not_eq_true, changed_ofText, not_not]

theorem target_step_entry {root : Text} {disk : Disk} {approve : Approver σ ε}
    {progress reached : Progress σ} {target : Target}
    (h : TargetStep root disk approve progress target reached none) :
    ∃ file, progress.Entry root target file ∧ reached.summary = progress.summary.record file := by
  -- Where the text would change, the entry says that it did or that this was refused.
  have differing {old : Text} {status : Status}
      (read : progress.tree.read (Path.join root target.path) = .ok old)
      (differs : (Revision.ofText target.rules old).changed = true) (found : status ≠ .missing)
      (other : status ≠ .unchanged) :
      progress.Entry root target ⟨target.path, status, (target.rules.apply old).fired⟩ :=
    .read read found (iff_of_false other ((changed_ofText _ _).mp differs))
  cases h with
  | missing h => exact ⟨_, .missing h, rfl⟩
  | unchanged old _ read same =>
    exact ⟨_, .read read (by decide) (iff_of_true rfl (unchanged_ofText.mp same)), rfl⟩
  | declined old _ read differs =>
    exact ⟨_, differing read differs (by decide) (by decide), rfl⟩
  | planned old _ read differs | written old _ _ read differs =>
    exact ⟨_, differing read differs (by decide) (by decide), rfl⟩

/-- An entry lists rules without saying that they would change the file exactly if they cancel. -/
theorem Entry.lists_unchanged_iff {progress : Progress σ} {root : Text} {target : Target}
    {file : FileResult} (h : progress.Entry root target file) :
    (file.rules ≠ [] ∧ file.status ≠ .changed ∧ file.status ≠ .declined) ↔
      ∃ old, progress.tree.read (Path.join root target.path) = .ok old ∧
        target.rules.Cancels old := by
  cases h with
  | missing h =>
    constructor
    · rintro ⟨hrules, -⟩
      exact absurd rfl hrules
    · rintro ⟨old, hread, -⟩
      rw [Tree.isFile_of_read hread] at h
      cases h
  | @read old status read found same =>
    have hstatus : (status ≠ .changed ∧ status ≠ .declined) ↔ status = .unchanged := by
      cases status <;> simp at found ⊢
    rw [hstatus, same]
    constructor
    · rintro ⟨hrules, hsame⟩
      exact ⟨old, read, hsame, hrules⟩
    · rintro ⟨other, hother, hsame, hrules⟩
      obtain rfl : old = other := Except.ok.inj (read.symm.trans hother)
      exact ⟨hrules, hsame⟩

end Progress

namespace Transformation

variable {transformation : Transformation} {root : Text} {dryRun : Bool} {approve : Approver σ ε}
  {state : σ} {disk : Disk} {tree : Tree} {summary : Summary}

theorem run_entry (h : (transformation.run root dryRun approve state disk tree).result = .ok summary)
    {i : Nat} {target : Target} (hi : transformation.targets[i]? = some target) :
    ∃ progress file, transformation.reach? root dryRun approve state disk tree i = some progress ∧
      summary.files[i]? = some file ∧ progress.Entry root target file := by
  obtain ⟨-, taken, reached, htaken, hmanifests, -, rfl⟩ := run_ok h
  obtain ⟨hsame, -⟩ := Progress.takeManifests_account (ε := ε) root disk transformation.manifests taken
  rw [hmanifests] at hsame
  obtain ⟨progress, next, hreach, hstep, hentry⟩ := step_of_taken htaken hi
  obtain ⟨file, hfile, hsummary⟩ := Progress.target_step_entry hstep
  exact ⟨progress, file, hreach, hsame ▸ hentry file hsummary, hfile⟩

/-- Only entries of files that change list rules, exactly if no target comes at its turn to a text on
which its rules cancel. -/
theorem run_rules_of_changes_iff
    (h : (transformation.run root dryRun approve state disk tree).result = .ok summary) :
    (∀ file ∈ summary.files, file.rules ≠ [] →
        file.status = .changed ∨ file.status = .declined) ↔
      ∀ i target progress old, transformation.targets[i]? = some target →
        transformation.reach? root dryRun approve state disk tree i = some progress →
          progress.tree.read (Path.join root target.path) = .ok old →
            ¬ target.rules.Cancels old := by
  constructor
  · intro hlists i target progress old hi hreach hread hcancels
    obtain ⟨_, file, hreach', hfile, hentry⟩ := run_entry h hi
    obtain rfl := Option.some.inj (hreach.symm.trans hreach')
    obtain ⟨hrules, hchanged, hdeclined⟩ :=
      hentry.lists_unchanged_iff.mpr ⟨old, hread, hcancels⟩
    exact (hlists file (List.mem_of_getElem? hfile) hrules).elim hchanged hdeclined
  · intro hnone file hfile hrules
    obtain ⟨i, hi⟩ := List.mem_iff_getElem?.mp hfile
    obtain ⟨target, htarget⟩ : ∃ target, transformation.targets[i]? = some target := by
      have hlt := (List.getElem?_eq_some_iff.mp hi).1
      have := congrArg List.length (run_paths h)
      simp only [List.length_map] at this
      exact ⟨_, List.getElem?_eq_getElem (by omega)⟩
    obtain ⟨progress, other, hreach, hother, hentry⟩ := run_entry h htarget
    obtain rfl := Option.some.inj (hi.symm.trans hother)
    refine Decidable.byContradiction fun hneither => ?_
    obtain ⟨hchanged, hdeclined⟩ := not_or.mp hneither
    obtain ⟨old, hread, hcancels⟩ := hentry.lists_unchanged_iff.mp ⟨hrules, hchanged, hdeclined⟩
    exact hnone i target progress old htarget hreach hread hcancels

theorem run_rules_of_settled
    (h : (transformation.run root dryRun approve state disk tree).result = .ok summary)
    (hsettled : ∀ target ∈ transformation.targets, target.rules.Settles) :
    ∀ file ∈ summary.files, file.rules ≠ [] →
      file.status = .changed ∨ file.status = .declined := by
  refine (run_rules_of_changes_iff h).mpr fun i target progress old hi _ _ => ?_
  exact (hsettled target (List.mem_of_getElem? hi)).not_cancels old

def thereAndBack : Transformation :=
  ⟨.fixHandlers, "src".toList,
    [⟨"src/a.rs".toList, .ofRules "there-and-back"
      [.replace "pool-via-state" (.literal "&*pool".toList) "&*state.pool".toList,
        .replace "pool-direct" (.literal "&*state.pool".toList) "&*pool".toList]⟩],
    []⟩

def poolFileTree : Tree :=
  ⟨[(Place.ofPath "src".toList, .dir),
    (Place.ofPath "src/a.rs".toList, .file (.text "q(&*pool)\n".toList))]⟩

/-- A summary lists the two rules for a file that did not change. -/
theorem not_run_rules_of_changes :
    ¬ ∀ (transformation : Transformation) (tree : Tree) (summary : Summary),
      (transformation.run [] false (Approver.always (ε := Empty)) () .sound tree).result = .ok summary →
        ∀ file ∈ summary.files, file.rules ≠ [] →
          file.status = .changed ∨ file.status = .declined := by
  intro hall
  have hrun : (thereAndBack.run [] false (Approver.always (ε := Empty)) () .sound poolFileTree).result =
      .ok ⟨.fixHandlers, false,
        [⟨"src/a.rs".toList, .unchanged, ["pool-via-state", "pool-direct"]⟩], ⟨0, 1, 0, 0⟩, []⟩ := by
    decide +kernel
  have hfile := hall _ _ _ hrun _ List.mem_cons_self (List.cons_ne_nil _ _)
  rcases hfile with hfile | hfile <;> cases hfile

end Transformation

end Recast
