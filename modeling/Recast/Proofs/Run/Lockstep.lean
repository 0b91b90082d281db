import Recast.Proofs.Run.Frame

/-! Runs whose approvers decide alike. What an approver keeps for itself, such as what it has
printed, may differ from one run to the other; as long as no decision and no tree depends on it, the
two runs go in step and end alike. This says nothing of approvers that look at what they kept. -/

namespace Recast

variable {σ τ ε : Type}

namespace Approver

/-- Both decide alike and leave the same tree, whatever each of them has kept. -/
def Alike (approve : Approver σ ε) (other : Approver τ ε) : Prop :=
  ∀ state state' tree path revision,
    (approve state tree path revision).verdict = (other state' tree path revision).verdict ∧
      (approve state tree path revision).tree = (other state' tree path revision).tree

def Notes (approve : Approver σ ε) (note : σ → Text × Revision → σ) : Prop :=
  ∀ state tree path revision,
    (approve state tree path revision).state = note state (path, revision)

end Approver

namespace Progress

structure Abreast (left : Progress σ) (right : Progress τ) : Prop where
  summary : left.summary = right.summary
  tree : left.tree = right.tree
  asked : left.asked = right.asked

section

variable {root : Text} {disk : Disk} {approve : Approver σ ε} {other : Approver τ ε}
  {left reached : Progress σ} {right : Progress τ} {stop : Option (Stop ε)}

theorem Abreast.record (abreast : left.Abreast right) (path : Text) (status : Status)
    (rules : List String) :
    (left.record path status rules).Abreast (right.record path status rules) where
  summary := congrArg (Summary.record · ⟨path, status, rules⟩) abreast.summary
  tree := abreast.tree
  asked := abreast.asked

theorem Abreast.answered (alike : approve.Alike other) (abreast : left.Abreast right)
    (path : Text) (revision : Revision) :
    (left.answered approve path revision).Abreast (right.answered other path revision) where
  summary := abreast.summary
  tree := by
    simp only [Progress.answered, ask, abreast.tree]
    exact (alike left.state right.state right.tree path revision).2
  asked := by
    simp only [Progress.answered, ask, abreast.asked]

theorem Abreast.verdict_eq (alike : approve.Alike other) (abreast : left.Abreast right)
    (path : Text) (revision : Revision) :
    left.verdict approve path revision = right.verdict other path revision := by
  simp only [verdict, abreast.tree]
  exact (alike left.state right.state right.tree path revision).1

theorem target_step_abreast (alike : approve.Alike other) {target : Target}
    (h : TargetStep root disk approve left target reached stop) (abreast : left.Abreast right) :
    ∃ reached', TargetStep root disk other right target reached' stop ∧ reached.Abreast reached' := by
  have hverdict := abreast.verdict_eq alike target.path
  have answered := abreast.answered alike target.path
  have htree := abreast.tree
  have hdryRun : left.summary.dryRun = right.summary.dryRun :=
    congrArg Summary.dryRun abreast.summary
  cases h with
  | missing hfile =>
    rw [htree] at hfile
    exact ⟨_, .missing hfile, abreast.record _ _ _⟩
  | unreadable cause hfile hread =>
    rw [htree] at hfile hread
    exact ⟨_, .unreadable cause hfile hread, abreast⟩
  | unchanged old hfile hread hsame =>
    rw [htree] at hfile hread
    exact ⟨_, .unchanged old hfile hread hsame, abreast.record _ _ _⟩
  | unanswered old cause hfile hread hdiffers hfailed =>
    rw [htree] at hfile hread
    rw [hverdict] at hfailed
    exact ⟨_, .unanswered old cause hfile hread hdiffers hfailed, answered _⟩
  | declined old hfile hread hdiffers hrefused =>
    rw [htree] at hfile hread
    rw [hverdict] at hrefused
    exact ⟨_, .declined old hfile hread hdiffers hrefused, (answered _).record _ _ _⟩
  | planned old hfile hread hdiffers hgranted hdry =>
    rw [htree] at hfile hread
    rw [hverdict] at hgranted
    rw [hdryRun] at hdry
    exact ⟨_, .planned old hfile hread hdiffers hgranted hdry, (answered _).record _ _ _⟩
  | unwritable old cause hfile hread hdiffers hgranted hreal hwrite =>
    rw [htree] at hfile hread
    rw [hverdict] at hgranted
    rw [hdryRun] at hreal
    rw [(answered _).tree] at hwrite
    exact ⟨_, .unwritable old cause hfile hread hdiffers hgranted hreal hwrite, answered _⟩
  | written old tree hfile hread hdiffers hgranted hreal hwrite =>
    rw [htree] at hfile hread
    rw [hverdict] at hgranted
    rw [hdryRun] at hreal
    rw [(answered _).tree] at hwrite
    have after : ({ left.answered approve target.path (Revision.ofText target.rules old) with
        tree := tree } : Progress σ).Abreast
          { right.answered other target.path (Revision.ofText target.rules old) with
            tree := tree } :=
      { answered (Revision.ofText target.rules old) with tree := rfl }
    exact ⟨_, .written old tree hfile hread hdiffers hgranted hreal hwrite, after.record _ _ _⟩

theorem manifest_step_abreast {manifest : Manifest}
    (h : ManifestStep root disk left manifest reached stop) (abreast : left.Abreast right) :
    ∃ reached', ManifestStep root disk right manifest reached' stop ∧ reached.Abreast reached' := by
  obtain ⟨hsummary, htree, hasked⟩ := abreast
  have hdryRun : left.summary.dryRun = right.summary.dryRun := congrArg Summary.dryRun hsummary
  cases h with
  | present hpresent =>
    rw [htree] at hpresent
    exact ⟨_, .present hpresent, hsummary, htree, hasked⟩
  | planned hnew hdry =>
    rw [htree] at hnew
    rw [hdryRun] at hdry
    refine ⟨_, .planned hnew hdry, ?_, htree, hasked⟩
    simp only [hsummary]
  | unwritable cause hnew hreal hwrite =>
    rw [htree] at hnew hwrite
    rw [hdryRun] at hreal
    exact ⟨_, .unwritable cause hnew hreal hwrite, hsummary, htree, hasked⟩
  | created tree hnew hreal hwrite =>
    rw [htree] at hnew hwrite
    rw [hdryRun] at hreal
    refine ⟨_, .created tree hnew hreal hwrite, ?_, rfl, hasked⟩
    simp only [hsummary]

theorem Course.abreast {α : Type} {step : Progress σ → α → Progress σ → Option (Stop ε) → Prop}
    {step' : Progress τ → α → Progress τ → Option (Stop ε) → Prop}
    {items : List α} (course : Course step items left reached stop)
    (pairs : ∀ {left item reached stop}, step left item reached stop →
      ∀ {right : Progress τ}, left.Abreast right →
        ∃ reached', step' right item reached' stop ∧ reached.Abreast reached')
    (abreast : left.Abreast right) :
    ∃ reached', Course step' items right reached' stop ∧ reached.Abreast reached' := by
  induction course generalizing right with
  | done => exact ⟨right, .done right, abreast⟩
  | next first _ ih =>
    obtain ⟨middle, hfirst, hmiddle⟩ := pairs first abreast
    obtain ⟨reached', hrest, hreached⟩ := ih hmiddle
    exact ⟨reached', .next hfirst hrest, hreached⟩
  | ended first =>
    obtain ⟨reached', hfirst, hreached⟩ := pairs first abreast
    exact ⟨reached', .ended hfirst, hreached⟩

end

section

variable {root : Text} {disk : Disk} {approve : Approver σ ε} {progress reached : Progress σ}
  {stop : Option (Stop ε)} {note : σ → Text × Revision → σ} {start : σ}

def Noted (note : σ → Text × Revision → σ) (start : σ) (progress : Progress σ) : Prop :=
  progress.state = progress.asked.foldl note start

theorem Noted.answered (notes : approve.Notes note) (noted : progress.Noted note start)
    (path : Text) (revision : Revision) :
    (progress.answered approve path revision).Noted note start := by
  simp only [Noted, Progress.answered, ask, List.foldl_append, List.foldl_cons, List.foldl_nil]
  rw [notes, noted]

theorem target_step_noted (notes : approve.Notes note) {target : Target}
    (h : TargetStep root disk approve progress target reached stop)
    (noted : progress.Noted note start) : reached.Noted note start := by
  cases h with
  | missing | unreadable | unchanged => exact noted
  | unanswered | declined | planned | unwritable | written => exact noted.answered notes _ _

theorem manifest_step_noted {manifest : Manifest}
    (h : ManifestStep root disk progress manifest reached stop) (noted : progress.Noted note start) :
    reached.Noted note start := by
  cases h with
  | present | planned | unwritable | created => exact noted

end

end Progress

namespace Transformation

variable {approve : Approver σ ε} {other : Approver τ ε} (transformation : Transformation)
  (root : Text) (dryRun : Bool) (disk : Disk)

/-- Runs whose approvers decide alike give the same account or stop for the same reason, and leave
the same tree after the same questions. -/
theorem run_alike (alike : approve.Alike other) (state : σ) (state' : τ) (tree : Tree) :
    (transformation.run root dryRun approve state disk tree).result =
        (transformation.run root dryRun other state' disk tree).result ∧
      (transformation.run root dryRun approve state disk tree).tree =
        (transformation.run root dryRun other state' disk tree).tree ∧
      (transformation.run root dryRun approve state disk tree).asked =
        (transformation.run root dryRun other state' disk tree).asked := by
  by_cases hdir : tree.isDir (Path.join root transformation.requiredDir) = true
  · have begin : (transformation.start dryRun state tree).Abreast
        (transformation.start dryRun state' tree) := ⟨rfl, rfl, rfl⟩
    cases hleft : Progress.takeTargets root disk approve transformation.targets
        (transformation.start dryRun state tree) with
    | mk left stop =>
      obtain ⟨right, hright, abreast⟩ := (Progress.takeTargets_eq_iff.mp hleft).abreast
        (fun first _ => Progress.target_step_abreast alike first) begin
      replace hright := Progress.takeTargets_eq_iff.mpr hright
      cases stop with
      | some stop =>
        rw [run_of_stopped hdir hleft, run_of_stopped hdir hright]
        exact ⟨rfl, abreast.tree, abreast.asked⟩
      | none =>
        rw [run_of_taken hdir hleft, run_of_taken hdir hright]
        obtain ⟨last, hlast, abreast'⟩ :=
          (Progress.takeManifests_course (ε := ε) root disk transformation.manifests left).abreast
            (fun first _ => Progress.manifest_step_abreast first) abreast
        rw [Progress.takeManifests_eq_iff.mpr hlast]
        refine ⟨?_, abreast'.tree, abreast'.asked⟩
        simp only [Progress.finish, abreast'.summary]
  · simp [run, hdir, Progress.finish]

/-- What the approver kept at the end are its notes of all questions, in whatever way the run
ended. -/
theorem run_state {note : σ → Text × Revision → σ} (notes : approve.Notes note) (state : σ)
    (tree : Tree) :
    (transformation.run root dryRun approve state disk tree).state =
      (transformation.run root dryRun approve state disk tree).asked.foldl note state := by
  by_cases hdir : tree.isDir (Path.join root transformation.requiredDir) = true
  · have begin : (transformation.start dryRun state tree).Noted note state := rfl
    cases h : Progress.takeTargets root disk approve transformation.targets
        (transformation.start dryRun state tree) with
    | mk taken stop =>
      have noted : taken.Noted note state :=
        (Progress.takeTargets_eq_iff.mp h).keeps (Progress.target_step_noted notes) begin
      cases stop with
      | some stop =>
        rw [run_of_stopped hdir h]
        exact noted
      | none =>
        rw [run_of_taken hdir h]
        exact (Progress.takeManifests_course (ε := ε) root disk transformation.manifests taken).keeps
          Progress.manifest_step_noted noted
  · simp [run, hdir, Progress.finish]

end Transformation

end Recast
