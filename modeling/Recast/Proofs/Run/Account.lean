import Recast.Proofs.Run.Frame

/-! The account that a run gives of itself. Every target has one entry, the tally counts the entries,
and the approver was asked about exactly those whose text would change. Approvers may touch the tree
here, and targets may share a file: what counts is the text that is read when a target has its
turn. -/

namespace Recast

variable {σ ε : Type}

namespace Status

def asks : Status → Bool
  | changed => true
  | unchanged => false
  | missing => false
  | declined => true

end Status

namespace Tally

def ofFiles (files : List FileResult) : Tally :=
  ⟨files.countP (·.status = .changed), files.countP (·.status = .unchanged),
    files.countP (·.status = .missing), files.countP (·.status = .declined)⟩

def total (tally : Tally) : Nat :=
  tally.changed + tally.unchanged + tally.missing + tally.declined

theorem ofFiles_concat (files : List FileResult) (file : FileResult) :
    ofFiles (files ++ [file]) = (ofFiles files).add file.status := by
  cases h : file.status <;> simp [ofFiles, add, List.countP_append, h]

theorem total_ofFiles (files : List FileResult) : (ofFiles files).total = files.length := by
  induction files with
  | nil => rfl
  | cons file files ih =>
    simp only [total, ofFiles] at ih
    cases h : file.status <;> simp [total, ofFiles, h] <;> omega

end Tally

namespace FileResult

def told (file : FileResult) : Text × List String := (file.path, file.rules)

end FileResult

namespace Progress

def told (progress : Progress σ) : List (Text × List String) :=
  progress.asked.map fun question => (question.1, question.2.fired)

structure Accounted (progress : Progress σ) : Prop where
  tally : progress.summary.tally = Tally.ofFiles progress.summary.files
  told : progress.told =
    (progress.summary.files.filter (·.status.asks)).map FileResult.told

/-- The rules would change the text that a target has at its turn. -/
def Differs (progress : Progress σ) (root : Text) (target : Target) : Prop :=
  ∃ old, progress.tree.read (Path.join root target.path) = .ok old ∧
    (target.rules.apply old).content ≠ old

theorem told_answered (approve : Approver σ ε) (progress : Progress σ) (path : Text)
    (revision : Revision) :
    (progress.answered approve path revision).told = progress.told ++ [(path, revision.fired)] := by
  simp [told, answered, ask]

theorem differs_iff {progress : Progress σ} {root old : Text} {target : Target}
    (hread : progress.tree.read (Path.join root target.path) = .ok old) :
    progress.Differs root target ↔ (Revision.ofText target.rules old).changed = true := by
  rw [changed_ofText]
  constructor
  · rintro ⟨other, hother, hne⟩
    obtain rfl : old = other := Except.ok.inj (hread.symm.trans hother)
    exact hne
  · intro h
    exact ⟨old, hread, h⟩

/-- A target that does not end the run adds one entry to the account, and one question if its text
would change. -/
theorem target_step_account {root : Text} {disk : Disk} {approve : Approver σ ε}
    {progress reached : Progress σ} {target : Target}
    (h : TargetStep root disk approve progress target reached none) :
    ∃ file : FileResult, file.path = target.path ∧
      reached.summary = progress.summary.record file ∧
      reached.told = progress.told ++ (if file.status.asks then [file.told] else []) ∧
      (file.status.asks = true ↔ progress.Differs root target) := by
  cases h with
  | missing hfile =>
    refine ⟨⟨target.path, .missing, []⟩, rfl, rfl, (List.append_nil _).symm, ?_⟩
    constructor
    · intro hasks
      cases hasks
    · rintro ⟨old, hread, _⟩
      rw [Tree.isFile_of_read hread] at hfile
      cases hfile
  | unchanged old _ hread hsame =>
    refine ⟨⟨target.path, .unchanged, _⟩, rfl, rfl, (List.append_nil _).symm, ?_⟩
    rw [differs_iff hread, hsame]
    rfl
  | declined old _ hread hdiffers =>
    refine ⟨⟨target.path, .declined, _⟩, rfl, rfl, told_answered approve progress _ _, ?_⟩
    rw [differs_iff hread, hdiffers]
    rfl
  | planned old _ hread hdiffers | written old _ _ hread hdiffers =>
    refine ⟨⟨target.path, .changed, _⟩, rfl, rfl, told_answered approve progress _ _, ?_⟩
    rw [differs_iff hread, hdiffers]
    rfl

theorem Accounted.step {progress reached : Progress σ} {file : FileResult}
    (h : progress.Accounted) (hsummary : reached.summary = progress.summary.record file)
    (htold : reached.told = progress.told ++ (if file.status.asks then [file.told] else [])) :
    reached.Accounted := by
  constructor
  · rw [hsummary, Summary.record, h.tally]
    exact (Tally.ofFiles_concat _ _).symm
  · rw [htold, hsummary, h.told, Summary.record, List.filter_append, List.map_append]
    by_cases ha : file.status.asks = true <;> simp [ha]

theorem takeTargets_account (root : Text) (disk : Disk) (approve : Approver σ ε)
    (targets : List Target) :
    ∀ {progress reached : Progress σ},
      takeTargets root disk approve targets progress = (reached, none) →
      progress.Accounted → reached.Accounted ∧ ∃ files, files.map (·.path) = targets.map (·.path) ∧
        reached.summary.files = progress.summary.files ++ files := by
  intro progress reached h hp
  replace h := takeTargets_eq_iff.mp h
  generalize hstop : (none : Option (Stop ε)) = stop at h
  induction h with
  | done => exact ⟨hp, [], rfl, (List.append_nil _).symm⟩
  | next first _ ih =>
    obtain ⟨file, hpath, hsummary, htold, -⟩ := target_step_account first
    obtain ⟨hreached, files, hfiles, hall⟩ := ih (hp.step hsummary htold) hstop
    refine ⟨hreached, file :: files, by simp [hpath, hfiles], ?_⟩
    rw [hall, hsummary, Summary.record, List.append_assoc, List.singleton_append]
  | ended => cases hstop

theorem manifest_step_account {root : Text} {disk : Disk} {progress reached : Progress σ}
    {manifest : Manifest} {stop : Option (Stop ε)}
    (h : ManifestStep root disk progress manifest reached stop) :
    reached.summary.files = progress.summary.files ∧
      reached.summary.tally = progress.summary.tally ∧ reached.asked = progress.asked := by
  cases h with
  | present | planned | unwritable | created => exact ⟨rfl, rfl, rfl⟩

theorem takeManifests_account (root : Text) (disk : Disk) (manifests : List Manifest) :
    ∀ progress : Progress σ,
      (takeManifests (ε := ε) root disk manifests progress).1.summary.files = progress.summary.files ∧
        (takeManifests (ε := ε) root disk manifests progress).1.summary.tally =
          progress.summary.tally ∧
        (takeManifests (ε := ε) root disk manifests progress).1.asked = progress.asked := by
  intro progress
  have course := takeManifests_course (ε := ε) root disk manifests progress
  generalize (takeManifests (ε := ε) root disk manifests progress).1 = reached,
    (takeManifests (ε := ε) root disk manifests progress).2 = stop at course ⊢
  induction course with
  | done => exact ⟨rfl, rfl, rfl⟩
  | next first _ ih =>
    obtain ⟨hfiles, htally, hasked⟩ := manifest_step_account first
    exact ⟨ih.1.trans hfiles, ih.2.1.trans htally, ih.2.2.trans hasked⟩
  | ended first => exact manifest_step_account first

end Progress

namespace Transformation

variable {transformation : Transformation} {root : Text} {dryRun : Bool} {approve : Approver σ ε}
  {state : σ} {disk : Disk} {tree : Tree} {summary : Summary}

theorem run_ok (h : (transformation.run root dryRun approve state disk tree).result = .ok summary) :
    tree.isDir (Path.join root transformation.requiredDir) = true ∧
      ∃ taken reached : Progress σ,
        Progress.takeTargets root disk approve transformation.targets
            (transformation.start dryRun state tree) = (taken, none) ∧
          Progress.takeManifests (ε := ε) root disk transformation.manifests taken = (reached, none) ∧
          transformation.run root dryRun approve state disk tree = reached.finish none ∧
          reached.summary = summary := by
  by_cases hdir : tree.isDir (Path.join root transformation.requiredDir) = true
  · refine ⟨hdir, ?_⟩
    cases ht : Progress.takeTargets root disk approve transformation.targets
        (transformation.start dryRun state tree) with
    | mk taken stop =>
      cases stop with
      | some stop =>
        rw [run_of_stopped hdir ht] at h
        cases h
      | none =>
        have hrun := run_of_taken hdir ht
        cases hm : Progress.takeManifests (ε := ε) root disk transformation.manifests taken with
        | mk reached stop =>
          rw [hm] at hrun
          cases stop with
          | some stop =>
            rw [hrun] at h
            cases h
          | none =>
            rw [hrun] at h
            exact ⟨taken, reached, rfl, hm, hrun, Except.ok.inj h⟩
  · rw [run, if_neg hdir] at h
    cases h

theorem reach?_of_taken {taken : Progress σ}
    (h : Progress.takeTargets root disk approve transformation.targets
      (transformation.start dryRun state tree) = (taken, none)) (i : Nat) :
    ∃ progress, transformation.reach? root dryRun approve state disk tree i = some progress := by
  cases hr : transformation.reach? root dryRun approve state disk tree i with
  | some progress => exact ⟨progress, rfl⟩
  | none =>
    obtain ⟨progress, stop, hstop⟩ := reach?_none hr
    rw [takeTargets_of_stopped hstop] at h
    cases h

theorem accounted_start : (transformation.start dryRun state tree).Accounted :=
  ⟨rfl, rfl⟩

/-- The run takes the step of every target, and the entry that the step adds to the account is the one
that stands there for the target in the end. -/
theorem step_of_taken {taken : Progress σ}
    (h : Progress.takeTargets root disk approve transformation.targets
      (transformation.start dryRun state tree) = (taken, none)) {i : Nat} {target : Target}
    (hi : transformation.targets[i]? = some target) :
    ∃ progress next, transformation.reach? root dryRun approve state disk tree i = some progress ∧
      Progress.TargetStep root disk approve progress target next none ∧
        ∀ file, next.summary = progress.summary.record file →
          taken.summary.files[i]? = some file := by
  obtain ⟨progress, hreach⟩ := reach?_of_taken h i
  obtain ⟨hp, before, hbefore, hfiles⟩ :=
    Progress.takeTargets_account root disk approve _ (reach?_some hreach) accounted_start
  have hlen : progress.summary.files.length = i := by
    have hlt := (List.getElem?_eq_some_iff.mp hi).1
    have := congrArg List.length hbefore
    rw [hfiles, List.length_append]
    simp only [List.length_map, List.length_take] at this
    simp only [start, Summary.start, List.length_nil]
    omega
  have hstep := Progress.takeTarget_step root disk approve progress target
  rw [takeTargets_of_reached hi hreach, Progress.takeTargets] at h
  cases ht : progress.takeTarget root disk approve target with
  | mk next stop =>
    rw [ht] at h hstep
    cases stop with
    | some stop => cases h
    | none =>
      refine ⟨progress, next, hreach, hstep, fun file hsummary => ?_⟩
      obtain ⟨other, -, hother, htold, -⟩ := Progress.target_step_account hstep
      obtain ⟨-, after, -, hall⟩ :=
        Progress.takeTargets_account root disk approve _ h (hp.step hother htold)
      rw [hall, hsummary, Summary.record, List.append_assoc, ← hlen]
      simp

/-- The entry of a target says that the approver was asked exactly if the rules would change the text
that was there at the target's turn. -/
theorem entry_of_taken {taken : Progress σ}
    (h : Progress.takeTargets root disk approve transformation.targets
      (transformation.start dryRun state tree) = (taken, none)) {i : Nat} {target : Target}
    (hi : transformation.targets[i]? = some target) :
    ∃ progress file, transformation.reach? root dryRun approve state disk tree i = some progress ∧
      taken.summary.files[i]? = some file ∧
        (file.status.asks = true ↔ progress.Differs root target) := by
  obtain ⟨progress, next, hreach, hstep, hentry⟩ := step_of_taken h hi
  obtain ⟨file, -, hsummary, -, hasks⟩ := Progress.target_step_account hstep
  exact ⟨progress, file, hreach, hentry file hsummary, hasks⟩

theorem run_paths (h : (transformation.run root dryRun approve state disk tree).result = .ok summary) :
    summary.files.map (·.path) = transformation.targets.map (·.path) := by
  obtain ⟨-, taken, reached, htaken, hmanifests, -, rfl⟩ := run_ok h
  obtain ⟨-, files, hpaths, hfiles⟩ :=
    Progress.takeTargets_account root disk approve _ htaken accounted_start
  obtain ⟨hsame, -⟩ := Progress.takeManifests_account (ε := ε) root disk transformation.manifests taken
  rw [hmanifests] at hsame
  rw [hsame, hfiles, ← hpaths]
  rfl

variable (transformation root dryRun approve state disk tree summary)

/-- A summary is an exact account of the run that gives it: one entry for each target in order, and one
question for each entry that is changed or declined. What counts for an entry is the text that was read
when the target had its turn. -/
structure Account : Prop where
  paths : summary.files.map (·.path) = transformation.targets.map (·.path)
  tally : summary.tally =
    ⟨summary.files.countP (·.status = .changed), summary.files.countP (·.status = .unchanged),
      summary.files.countP (·.status = .missing), summary.files.countP (·.status = .declined)⟩
  total : summary.tally.changed + summary.tally.unchanged + summary.tally.missing +
    summary.tally.declined = transformation.targets.length
  asked : (transformation.run root dryRun approve state disk tree).asked.map
      (fun question => (question.1, question.2.fired)) =
    (summary.files.filter fun file => file.status = .changed ∨ file.status = .declined).map
      fun file => (file.path, file.rules)
  differs : ∀ i target, transformation.targets[i]? = some target →
    ∃ progress file, transformation.reach? root dryRun approve state disk tree i = some progress ∧
      summary.files[i]? = some file ∧
      ((file.status = .changed ∨ file.status = .declined) ↔
        ∃ old, progress.tree.read (Path.join root target.path) = .ok old ∧
          (target.rules.apply old).content ≠ old)

variable {transformation root dryRun approve state disk tree summary}

theorem asks_iff (status : Status) :
    status.asks = true ↔ status = .changed ∨ status = .declined := by
  cases status <;> simp [Status.asks]

/-- The summary of every run that gives one is an exact account of it, whatever the approver does. -/
theorem run_accounted
    (h : (transformation.run root dryRun approve state disk tree).result = .ok summary) :
    transformation.Account root dryRun approve state disk tree summary := by
  have hpaths := run_paths h
  obtain ⟨-, taken, reached, htaken, hmanifests, hrun, rfl⟩ := run_ok h
  obtain ⟨hp, -⟩ := Progress.takeTargets_account root disk approve _ htaken accounted_start
  obtain ⟨hsame, htally, hasked⟩ :=
    Progress.takeManifests_account (ε := ε) root disk transformation.manifests taken
  rw [hmanifests] at hsame htally hasked
  constructor
  · exact hpaths
  · rw [htally, hsame]
    exact hp.tally
  · have htotal := Tally.total_ofFiles taken.summary.files
    rw [← hp.tally, ← htally, ← hsame] at htotal
    have hlength := congrArg List.length hpaths
    simp only [List.length_map] at hlength
    exact htotal.trans hlength
  · have hfilter : (fun file : FileResult =>
        decide (file.status = .changed ∨ file.status = .declined)) = (·.status.asks) := by
      funext file
      rw [Bool.eq_iff_iff, decide_eq_true_eq, asks_iff]
    rw [hrun, hfilter, hsame]
    have htold := hp.told
    rw [Progress.told, ← hasked] at htold
    exact htold
  · intro i target hi
    obtain ⟨progress, file, hreach, hfile, hasks⟩ := entry_of_taken htaken hi
    rw [asks_iff] at hasks
    exact ⟨progress, file, hreach, hsame ▸ hfile, hasks⟩

/-- Two targets that are one file, one that is going to be refused and one that is not there. -/
def sharedFile : Transformation :=
  ⟨.fixHandlers, "src".toList,
    [⟨"src/a.rs".toList, Catalog.fixAuthHandler⟩, ⟨"src/a.rs".toList, Catalog.fixAuthHandler⟩,
      ⟨"src/b.rs".toList, Catalog.fixAuthHandler⟩, ⟨"src/c.rs".toList, Catalog.fixAuthHandler⟩],
    []⟩

def sharedFileTree : Tree :=
  ⟨[(Place.ofPath "src".toList, .dir),
    (Place.ofPath "src/a.rs".toList, .file (.text "q(&**pool)".toList)),
    (Place.ofPath "src/b.rs".toList, .file (.text "r(&**pool)".toList))]⟩

def sharedFileSummary : Summary :=
  ⟨.fixHandlers, false,
    [⟨"src/a.rs".toList, .changed, ["pool-deref-normalize"]⟩, ⟨"src/a.rs".toList, .unchanged, []⟩,
      ⟨"src/b.rs".toList, .declined, ["pool-deref-normalize"]⟩, ⟨"src/c.rs".toList, .missing, []⟩],
    ⟨1, 1, 1, 1⟩, []⟩

def refuseB : Approver Unit Empty :=
  fun _ tree path _ => ⟨.ok (path ≠ "src/b.rs".toList), (), tree⟩

theorem run_accounted_shared_file :
    (sharedFile.run [] false refuseB () .sound sharedFileTree).result = .ok sharedFileSummary ∧
      sharedFile.Account [] false refuseB () .sound sharedFileTree sharedFileSummary := by
  have h : (sharedFile.run [] false refuseB () .sound sharedFileTree).result = .ok sharedFileSummary := by
    decide +kernel
  exact ⟨h, run_accounted h⟩

end Transformation

end Recast
