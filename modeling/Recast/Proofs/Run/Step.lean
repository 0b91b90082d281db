import Recast.Proofs.Tree
import Recast.Run

/-! What one step of a run can do. A target comes to one of eight ends and a manifest to one of
four; each end is a constructor that carries its reasons. Everything about whole runs is derived
from these two relations, and the step functions are not opened again. -/

namespace Recast

variable {σ ε : Type}

namespace Progress

def answered (approve : Approver σ ε) (progress : Progress σ) (path : Text)
    (revision : Revision) : Progress σ :=
  (progress.ask approve path revision).2

def verdict (approve : Approver σ ε) (progress : Progress σ) (path : Text)
    (revision : Revision) : Except ε Bool :=
  (approve progress.state progress.tree path revision).verdict

@[simp] theorem tree_record (progress : Progress σ) (path : Text) (status : Status)
    (rules : List String) : (progress.record path status rules).tree = progress.tree := rfl

@[simp] theorem dryRun_record (progress : Progress σ) (path : Text) (status : Status)
    (rules : List String) :
    (progress.record path status rules).summary.dryRun = progress.summary.dryRun := rfl

@[simp] theorem dryRun_answered (approve : Approver σ ε) (progress : Progress σ) (path : Text)
    (revision : Revision) :
    (progress.answered approve path revision).summary.dryRun = progress.summary.dryRun := rfl

theorem tree_answered {approve : Approver σ ε} (quiet : approve.Quiet) (progress : Progress σ)
    (path : Text) (revision : Revision) :
    (progress.answered approve path revision).tree = progress.tree :=
  quiet progress.state progress.tree path revision

theorem changed_ofText (rules : RuleSet) (old : Text) :
    (Revision.ofText rules old).changed = true ↔ (rules.apply old).content ≠ old := by
  simp only [Revision.changed, Revision.ofText, bne_iff_ne]
  exact ne_comm

inductive TargetStep (root : Text) (disk : Disk) (approve : Approver σ ε) (progress : Progress σ)
    (target : Target) : Progress σ → Option (Stop ε) → Prop where
  | missing (h : progress.tree.isFile (Path.join root target.path) = false) :
    TargetStep root disk approve progress target (progress.record target.path .missing []) none
  | unreadable (cause : FileFault)
    (h : progress.tree.isFile (Path.join root target.path) = true)
    (unread : progress.tree.read (Path.join root target.path) = .error cause) :
    TargetStep root disk approve progress target progress
      (some (.fault (.read (Path.join root target.path) cause)))
  | unchanged (old : Text)
    (h : progress.tree.isFile (Path.join root target.path) = true)
    (read : progress.tree.read (Path.join root target.path) = .ok old)
    (same : (Revision.ofText target.rules old).changed = false) :
    TargetStep root disk approve progress target
      (progress.record target.path .unchanged (Revision.ofText target.rules old).fired) none
  | unanswered (old : Text) (cause : ε)
    (h : progress.tree.isFile (Path.join root target.path) = true)
    (read : progress.tree.read (Path.join root target.path) = .ok old)
    (differs : (Revision.ofText target.rules old).changed = true)
    (failed : progress.verdict approve target.path (Revision.ofText target.rules old) =
      .error cause) :
    TargetStep root disk approve progress target
      (progress.answered approve target.path (Revision.ofText target.rules old))
      (some (.approval cause))
  | declined (old : Text)
    (h : progress.tree.isFile (Path.join root target.path) = true)
    (read : progress.tree.read (Path.join root target.path) = .ok old)
    (differs : (Revision.ofText target.rules old).changed = true)
    (refused : progress.verdict approve target.path (Revision.ofText target.rules old) =
      .ok false) :
    TargetStep root disk approve progress target
      ((progress.answered approve target.path (Revision.ofText target.rules old)).record
        target.path .declined (Revision.ofText target.rules old).fired) none
  | planned (old : Text)
    (h : progress.tree.isFile (Path.join root target.path) = true)
    (read : progress.tree.read (Path.join root target.path) = .ok old)
    (differs : (Revision.ofText target.rules old).changed = true)
    (granted : progress.verdict approve target.path (Revision.ofText target.rules old) =
      .ok true)
    (dry : progress.summary.dryRun = true) :
    TargetStep root disk approve progress target
      ((progress.answered approve target.path (Revision.ofText target.rules old)).record
        target.path .changed (Revision.ofText target.rules old).fired) none
  | unwritable (old : Text) (cause : FileFault)
    (h : progress.tree.isFile (Path.join root target.path) = true)
    (read : progress.tree.read (Path.join root target.path) = .ok old)
    (differs : (Revision.ofText target.rules old).changed = true)
    (granted : progress.verdict approve target.path (Revision.ofText target.rules old) =
      .ok true)
    (real : progress.summary.dryRun = false)
    (unwritten : (progress.answered approve target.path
      (Revision.ofText target.rules old)).tree.write disk (Path.join root target.path)
        (Revision.ofText target.rules old).after = .error cause) :
    TargetStep root disk approve progress target
      (progress.answered approve target.path (Revision.ofText target.rules old))
      (some (.fault (.write (Path.join root target.path) cause)))
  | written (old : Text) (tree : Tree)
    (h : progress.tree.isFile (Path.join root target.path) = true)
    (read : progress.tree.read (Path.join root target.path) = .ok old)
    (differs : (Revision.ofText target.rules old).changed = true)
    (granted : progress.verdict approve target.path (Revision.ofText target.rules old) =
      .ok true)
    (real : progress.summary.dryRun = false)
    (write : (progress.answered approve target.path
      (Revision.ofText target.rules old)).tree.write disk (Path.join root target.path)
        (Revision.ofText target.rules old).after = .ok tree) :
    TargetStep root disk approve progress target
      ({ progress.answered approve target.path (Revision.ofText target.rules old) with
          tree := tree }.record target.path .changed (Revision.ofText target.rules old).fired) none

inductive ManifestStep (root : Text) (disk : Disk) (progress : Progress σ) (manifest : Manifest) :
    Progress σ → Option (Stop ε) → Prop where
  | present (h : progress.tree.has (Path.join root manifest.path) = true) :
    ManifestStep root disk progress manifest progress none
  | planned (h : progress.tree.has (Path.join root manifest.path) = false)
    (dry : progress.summary.dryRun = true) :
    ManifestStep root disk progress manifest
      { progress with
        summary := { progress.summary with
          created := progress.summary.created ++ [manifest.path] } } none
  | unwritable (cause : FileFault)
    (h : progress.tree.has (Path.join root manifest.path) = false)
    (real : progress.summary.dryRun = false)
    (unwritten : progress.tree.write disk (Path.join root manifest.path) manifest.body =
      .error cause) :
    ManifestStep root disk progress manifest progress
      (some (.fault (.write (Path.join root manifest.path) cause)))
  | created (tree : Tree)
    (h : progress.tree.has (Path.join root manifest.path) = false)
    (real : progress.summary.dryRun = false)
    (write : progress.tree.write disk (Path.join root manifest.path) manifest.body = .ok tree) :
    ManifestStep root disk progress manifest
      { progress with
        tree := tree
        summary := { progress.summary with
          created := progress.summary.created ++ [manifest.path] } } none

theorem takeTarget_step (root : Text) (disk : Disk) (approve : Approver σ ε)
    (progress : Progress σ) (target : Target) :
    TargetStep root disk approve progress target (progress.takeTarget root disk approve target).1
      (progress.takeTarget root disk approve target).2 := by
  unfold takeTarget
  dsimp only
  split
  · rename_i hfile
    unfold Revision.plan
    cases hread : progress.tree.read (Path.join root target.path) with
    | error cause => exact .unreadable cause hfile hread
    | ok old =>
      dsimp only
      cases hchanged : (Revision.ofText target.rules old).changed with
      | false => exact .unchanged old hfile hread hchanged
      | true =>
        rw [if_pos rfl]
        cases hverdict : (approve progress.state progress.tree target.path
            (Revision.ofText target.rules old)).verdict with
        | error cause =>
          simp only [ask, hverdict]
          exact .unanswered old cause hfile hread hchanged hverdict
        | ok said =>
          cases said with
          | false =>
            simp only [ask, hverdict]
            exact .declined old hfile hread hchanged hverdict
          | true =>
            simp only [ask, hverdict]
            cases hdry : progress.summary.dryRun with
            | true =>
              rw [if_pos rfl]
              exact .planned old hfile hread hchanged hverdict hdry
            | false =>
              rw [if_neg (by decide)]
              unfold Revision.commit
              rw [if_pos hchanged]
              cases hwrite : (progress.answered approve target.path
                  (Revision.ofText target.rules old)).tree.write disk (Path.join root target.path)
                  (Revision.ofText target.rules old).after with
              | error cause =>
                have hw := hwrite
                simp only [answered, ask] at hw
                simp only [hw]
                exact .unwritable old cause hfile hread hchanged hverdict hdry hwrite
              | ok tree =>
                have hw := hwrite
                simp only [answered, ask] at hw
                simp only [hw]
                exact .written old tree hfile hread hchanged hverdict hdry hwrite
  · rename_i hfile
    exact .missing (by simpa using hfile)

theorem takeManifest_step (root : Text) (disk : Disk) (progress : Progress σ)
    (manifest : Manifest) :
    ManifestStep root disk progress manifest (takeManifest (ε := ε) root disk progress manifest).1
      (takeManifest (ε := ε) root disk progress manifest).2 := by
  unfold takeManifest
  dsimp only
  split
  · rename_i h
    exact .present h
  · rename_i h
    have hnew : progress.tree.has (Path.join root manifest.path) = false := by simpa using h
    split
    · rename_i hdry
      exact .planned hnew hdry
    · rename_i hdry
      have hreal : progress.summary.dryRun = false := by simpa using hdry
      split
      · rename_i cause hwrite
        exact .unwritable cause hnew hreal hwrite
      · rename_i tree hwrite
        exact .created tree hnew hreal hwrite

theorem takeTarget_eq {root : Text} {disk : Disk} {approve : Approver σ ε}
    {progress reached : Progress σ} {target : Target} {stop : Option (Stop ε)}
    (h : TargetStep root disk approve progress target reached stop) :
    progress.takeTarget root disk approve target = (reached, stop) := by
  unfold takeTarget
  cases h with
  | missing hfile => simp [hfile]
  | unreadable cause hfile hread => simp [hfile, Revision.plan, hread]
  | unchanged old hfile hread hsame => simp [hfile, Revision.plan, hread, hsame]
  | unanswered old cause hfile hread hdiffers hfailed =>
    have hv : (approve progress.state progress.tree target.path _).verdict = _ := hfailed
    simp [hfile, Revision.plan, hread, hdiffers, ask, hv, answered]
  | declined old hfile hread hdiffers hrefused =>
    have hv : (approve progress.state progress.tree target.path _).verdict = _ := hrefused
    simp [hfile, Revision.plan, hread, hdiffers, ask, hv, answered]
  | planned old hfile hread hdiffers hgranted hdry =>
    have hv : (approve progress.state progress.tree target.path _).verdict = _ := hgranted
    simp [hfile, Revision.plan, hread, hdiffers, ask, hv, hdry, answered]
  | unwritable old cause hfile hread hdiffers hgranted hreal hwrite =>
    have hv : (approve progress.state progress.tree target.path _).verdict = _ := hgranted
    simp only [answered, ask] at hwrite
    simp [hfile, Revision.plan, hread, hdiffers, ask, hv, hreal, answered, Revision.commit, hwrite]
  | written old tree hfile hread hdiffers hgranted hreal hwrite =>
    have hv : (approve progress.state progress.tree target.path _).verdict = _ := hgranted
    simp only [answered, ask] at hwrite
    simp [hfile, Revision.plan, hread, hdiffers, ask, hv, hreal, answered, Revision.commit, hwrite]

theorem takeManifest_eq {root : Text} {disk : Disk} {progress reached : Progress σ}
    {manifest : Manifest} {stop : Option (Stop ε)}
    (h : ManifestStep root disk progress manifest reached stop) :
    progress.takeManifest root disk manifest = (reached, stop) := by
  unfold takeManifest
  cases h with
  | present h => simp [h]
  | planned h hdry => simp [h, hdry]
  | unwritable cause h hreal hwrite => simp [h, hreal, hwrite]
  | created tree h hreal hwrite => simp [h, hreal, hwrite]

theorem takeTarget_eq_iff {root : Text} {disk : Disk} {approve : Approver σ ε}
    {progress reached : Progress σ} {target : Target} {stop : Option (Stop ε)} :
    progress.takeTarget root disk approve target = (reached, stop) ↔
      TargetStep root disk approve progress target reached stop := by
  refine ⟨fun h => ?_, takeTarget_eq⟩
  have first := takeTarget_step root disk approve progress target
  rwa [h] at first

theorem takeManifest_eq_iff {root : Text} {disk : Disk} {progress reached : Progress σ}
    {manifest : Manifest} {stop : Option (Stop ε)} :
    progress.takeManifest root disk manifest = (reached, stop) ↔
      ManifestStep root disk progress manifest reached stop := by
  refine ⟨fun h => ?_, takeManifest_eq⟩
  have first := takeManifest_step (ε := ε) root disk progress manifest
  rwa [h] at first

inductive Course {α : Type} (step : Progress σ → α → Progress σ → Option (Stop ε) → Prop) :
    List α → Progress σ → Progress σ → Option (Stop ε) → Prop where
  | done (progress : Progress σ) : Course step [] progress progress none
  | next {item : α} {more : List α} {progress middle reached : Progress σ}
    {stop : Option (Stop ε)} (first : step progress item middle none)
    (rest : Course step more middle reached stop) :
    Course step (item :: more) progress reached stop
  | ended {item : α} {more : List α} {progress reached : Progress σ} {cause : Stop ε}
    (first : step progress item reached (some cause)) :
    Course step (item :: more) progress reached (some cause)

/-- What every step keeps, a course keeps, also one that is ended. -/
theorem Course.keeps {α : Type} {step : Progress σ → α → Progress σ → Option (Stop ε) → Prop}
    {P : Progress σ → Prop} {items : List α} {progress reached : Progress σ}
    {stop : Option (Stop ε)} (course : Course step items progress reached stop)
    (keep : ∀ {progress item reached stop}, step progress item reached stop →
      P progress → P reached)
    (h : P progress) : P reached := by
  induction course with
  | done => exact h
  | next first _ ih => exact ih (keep first h)
  | ended first => exact keep first h

/-- A function that takes one item after the other until one of them ends the run reaches what the
steps of its items reach. -/
theorem Course.taken_iff {α : Type} {step : Progress σ → α → Progress σ → Option (Stop ε) → Prop}
    {take : Progress σ → α → Progress σ × Option (Stop ε)}
    {takeAll : List α → Progress σ → Progress σ × Option (Stop ε)}
    (one : ∀ {progress item reached stop},
      take progress item = (reached, stop) ↔ step progress item reached stop)
    (nothing : ∀ progress, takeAll [] progress = (progress, none))
    (inTurn : ∀ item more progress, takeAll (item :: more) progress =
      match take progress item with
      | (reached, none) => takeAll more reached
      | (reached, some stop) => (reached, some stop))
    {items : List α} {progress reached : Progress σ} {stop : Option (Stop ε)} :
    takeAll items progress = (reached, stop) ↔ Course step items progress reached stop := by
  constructor
  · intro h
    induction items generalizing progress with
    | nil =>
      rw [nothing] at h
      cases h
      exact .done _
    | cons item more ih =>
      rw [inTurn] at h
      cases taken : take progress item with
      | mk middle ending =>
        rw [taken] at h
        cases ending with
        | none => exact .next (one.mp taken) (ih h)
        | some cause =>
          cases h
          exact .ended (one.mp taken)
  · intro course
    induction course with
    | done => exact nothing _
    | next first _ ih =>
      rw [inTurn, one.mpr first]
      exact ih
    | ended first => rw [inTurn, one.mpr first]

theorem takeTargets_eq_iff {root : Text} {disk : Disk} {approve : Approver σ ε}
    {targets : List Target} {progress reached : Progress σ} {stop : Option (Stop ε)} :
    takeTargets root disk approve targets progress = (reached, stop) ↔
      Course (TargetStep root disk approve) targets progress reached stop :=
  Course.taken_iff takeTarget_eq_iff (fun _ => rfl) (fun _ _ _ => rfl)

theorem takeManifests_eq_iff {root : Text} {disk : Disk} {manifests : List Manifest}
    {progress reached : Progress σ} {stop : Option (Stop ε)} :
    takeManifests root disk manifests progress = (reached, stop) ↔
      Course (ManifestStep root disk) manifests progress reached stop :=
  Course.taken_iff takeManifest_eq_iff (fun _ => rfl) (fun _ _ _ => rfl)

theorem takeManifests_course (root : Text) (disk : Disk) (manifests : List Manifest)
    (progress : Progress σ) :
    Course (ManifestStep root disk) manifests progress
      (takeManifests (ε := ε) root disk manifests progress).1
      (takeManifests (ε := ε) root disk manifests progress).2 :=
  takeManifests_eq_iff.mp rfl

/-- Targets are taken one list after the other, as long as nothing ends the run. -/
theorem takeTargets_append (root : Text) (disk : Disk) (approve : Approver σ ε)
    (targets more : List Target) :
    ∀ progress : Progress σ, takeTargets root disk approve (targets ++ more) progress =
      match takeTargets root disk approve targets progress with
      | (reached, none) => takeTargets root disk approve more reached
      | (reached, some stop) => (reached, some stop) := by
  induction targets with
  | nil => intro progress; rfl
  | cons target targets ih =>
    intro progress
    rw [List.cons_append, takeTargets, takeTargets]
    cases h : progress.takeTarget root disk approve target with
    | mk reached stop =>
      cases stop with
      | none => exact ih reached
      | some stop => rfl

end Progress

end Recast
