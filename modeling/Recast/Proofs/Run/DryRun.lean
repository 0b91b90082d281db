import Recast.Proofs.Run.Account

/-! A dry run tells what the run that writes would do. The two runs go side by side: the one that
writes changes its tree with every step, the other reads the old tree to the end. What a later step
looks at, its own place and the directories on the way to it, is the same in both trees as long as
targets and manifests are different files. -/

namespace Recast

variable {σ ε : Type}

namespace Approver

/-- What the approver answers depends on the path and the revision alone. -/
def Steady (approve : Approver σ ε) : Prop :=
  ∃ answer : Text → Revision → Except ε Bool, ∀ state tree path revision,
    (approve state tree path revision).verdict = answer path revision

end Approver

namespace Summary

def ofDryRun (summary : Summary) : Summary := { summary with dryRun := true }

@[simp] theorem ofDryRun_record (summary : Summary) (file : FileResult) :
    (summary.record file).ofDryRun = summary.ofDryRun.record file := rfl

end Summary

namespace Progress

/-- The dry run is where the run that writes is: the account is the same so far, the same questions
were asked, and what lies ahead looks the same in both trees. -/
structure Shadows (ahead : List Place) (dry real : Progress σ) : Prop where
  writes : real.summary.dryRun = false
  summary : dry.summary = real.summary.ofDryRun
  asked : dry.asked = real.asked
  dirs : dry.tree.SameDirs real.tree
  same : ∀ place ∈ ahead, real.tree.entry? place = dry.tree.entry? place

theorem Shadows.dry {ahead : List Place} {dry real : Progress σ} (h : dry.Shadows ahead real) :
    dry.summary.dryRun = true := by
  rw [h.summary]
  rfl

theorem Shadows.record {ahead : List Place} {dry real : Progress σ} (h : dry.Shadows ahead real)
    (path : Text) (status : Status) (rules : List String) :
    (dry.record path status rules).Shadows ahead (real.record path status rules) where
  writes := h.writes
  summary := by
    simp only [Progress.record, h.summary, Summary.ofDryRun_record]
  asked := h.asked
  dirs := h.dirs
  same := h.same

theorem Shadows.answered {ahead : List Place} {dry real : Progress σ} {approve : Approver σ ε}
    (h : dry.Shadows ahead real) (quiet : approve.Quiet) (path : Text) (revision : Revision) :
    (dry.answered approve path revision).Shadows ahead (real.answered approve path revision) where
  writes := h.writes
  summary := h.summary
  asked := by
    simp only [Progress.answered, ask, h.asked]
  dirs := by
    rw [tree_answered quiet, tree_answered quiet]
    exact h.dirs
  same := by
    rw [tree_answered quiet, tree_answered quiet]
    exact h.same

theorem Shadows.write {ahead : List Place} {dry real : Progress σ} (h : dry.Shadows ahead real)
    {disk : Disk} {path text : Text} {tree : Tree} (hbehind : Place.ofPath path ∉ ahead)
    (hwrite : real.tree.write disk path text = .ok tree) :
    dry.Shadows ahead { real with tree := tree } where
  writes := h.writes
  summary := h.summary
  asked := h.asked
  dirs := h.dirs.trans (Tree.SameDirs.of_write hwrite)
  same := by
    intro place hp
    have hne : place ≠ Place.ofPath path := fun he => hbehind (he ▸ hp)
    exact (Tree.entry?_write hwrite place).trans ((if_neg hne).trans (h.same place hp))

theorem verdict_eq {approve : Approver σ ε} (steady : approve.Steady) (dry real : Progress σ)
    (path : Text) (revision : Revision) :
    dry.verdict approve path revision = real.verdict approve path revision := by
  obtain ⟨answer, hanswer⟩ := steady
  exact (hanswer _ _ _ _).trans (hanswer _ _ _ _).symm

/-- The dry run takes a target the way the other run did, except that it writes nothing. -/
theorem target_step_shadow {root : Text} {disk : Disk} {approve : Approver σ ε}
    (quiet : approve.Quiet) (steady : approve.Steady) {dry real reached : Progress σ} {target : Target}
    {ahead : List Place} (hahead : target.place root ∉ ahead)
    (h : TargetStep root disk approve real target reached none)
    (shadows : dry.Shadows (target.place root :: ahead) real) :
    ∃ dry', TargetStep root disk approve dry target dry' none ∧ dry'.Shadows ahead reached := by
  have here := shadows.same _ List.mem_cons_self
  have hfile := shadows.dirs.isFile_eq here
  have hread := shadows.dirs.read_ok_iff here
  have hverdict (old : Text) := verdict_eq steady dry real target.path
    (Revision.ofText target.rules old)
  have rest : dry.Shadows ahead real :=
    { shadows with same := fun place hp => shadows.same place (List.mem_cons_of_mem _ hp) }
  cases h with
  | missing hmissing =>
    exact ⟨_, .missing (hfile ▸ hmissing), rest.record _ _ _⟩
  | unchanged old hf hr hsame =>
    exact ⟨_, .unchanged old (hfile ▸ hf) ((hread old).mp hr) hsame, rest.record _ _ _⟩
  | declined old hf hr hdiffers hrefused =>
    exact ⟨_, .declined old (hfile ▸ hf) ((hread old).mp hr) hdiffers
      ((hverdict old).trans hrefused), (rest.answered quiet _ _).record _ _ _⟩
  | planned old hf hr hdiffers hgranted hdry =>
    rw [shadows.writes] at hdry
    cases hdry
  | written old tree hf hr hdiffers hgranted hreal hwrite =>
    refine ⟨_, .planned old (hfile ▸ hf) ((hread old).mp hr) hdiffers
      ((hverdict old).trans hgranted) shadows.dry, ?_⟩
    have answered := rest.answered quiet target.path (Revision.ofText target.rules old)
    exact (answered.write hahead hwrite).record _ _ _

theorem takeTargets_shadow (root : Text) (disk : Disk) {approve : Approver σ ε}
    (quiet : approve.Quiet) (steady : approve.Steady) (ahead : List Place) (targets : List Target) :
    ∀ {dry real reached : Progress σ},
      (targets.map (·.place root) ++ ahead).Nodup →
      takeTargets root disk approve targets real = (reached, none) →
      dry.Shadows (targets.map (·.place root) ++ ahead) real →
      ∃ dry', takeTargets root disk approve targets dry = (dry', none) ∧ dry'.Shadows ahead reached := by
  intro dry real reached apart h shadows
  replace h := takeTargets_eq_iff.mp h
  simp only [takeTargets_eq_iff]
  generalize hstop : (none : Option (Stop ε)) = stop at h
  induction h generalizing dry with
  | done => exact ⟨dry, .done dry, shadows⟩
  | next first _ ih =>
    obtain ⟨hnot, hrest⟩ := List.nodup_cons.mp apart
    obtain ⟨middle, htaken, hshadows⟩ := target_step_shadow quiet steady hnot first shadows
    obtain ⟨dry', hmore, hall⟩ := ih hrest hshadows hstop
    exact ⟨dry', .next htaken hmore, hall⟩
  | ended => cases hstop

theorem manifest_step_shadow {root : Text} {disk : Disk} {dry real reached : Progress σ}
    {manifest : Manifest} {ahead : List Place} (hahead : manifest.place root ∉ ahead)
    (h : ManifestStep (ε := ε) root disk real manifest reached none)
    (shadows : dry.Shadows (manifest.place root :: ahead) real) :
    ∃ dry', ManifestStep (ε := ε) root disk dry manifest dry' none ∧ dry'.Shadows ahead reached := by
  have hhas := shadows.dirs.has_eq (shadows.same _ List.mem_cons_self)
  have rest : dry.Shadows ahead real :=
    { shadows with same := fun place hp => shadows.same place (List.mem_cons_of_mem _ hp) }
  cases h with
  | present hpresent => exact ⟨dry, .present (hhas ▸ hpresent), rest⟩
  | planned _ hdry =>
    rw [shadows.writes] at hdry
    cases hdry
  | created tree hnew _ hwrite =>
    refine ⟨_, .planned (hhas ▸ hnew) shadows.dry, ?_⟩
    have written := rest.write hahead hwrite
    refine { written with summary := ?_ }
    simp only [shadows.summary, Summary.ofDryRun]

theorem takeManifests_shadow (root : Text) (disk : Disk) (manifests : List Manifest) :
    ∀ {dry real reached : Progress σ}, (manifests.map (·.place root)).Nodup →
      takeManifests (ε := ε) root disk manifests real = (reached, none) →
      dry.Shadows (manifests.map (·.place root)) real →
      ∃ dry', takeManifests (ε := ε) root disk manifests dry = (dry', none) ∧
        dry'.Shadows [] reached := by
  intro dry real reached apart h shadows
  replace h := takeManifests_eq_iff.mp h
  simp only [takeManifests_eq_iff]
  generalize hstop : (none : Option (Stop ε)) = stop at h
  induction h generalizing dry with
  | done => exact ⟨dry, .done dry, shadows⟩
  | next first _ ih =>
    obtain ⟨hnot, hrest⟩ := List.nodup_cons.mp apart
    obtain ⟨middle, htaken, hshadows⟩ := manifest_step_shadow hnot first shadows
    obtain ⟨dry', hmore, hall⟩ := ih hrest hshadows hstop
    exact ⟨dry', .next htaken hmore, hall⟩
  | ended => cases hstop

end Progress

namespace Transformation

variable {transformation : Transformation} {root : Text} {approve : Approver σ ε} {state : σ}
  {disk : Disk} {tree : Tree} {summary : Summary}

/-- When the run that writes succeeds, the dry run from the same tree succeeds with the same account,
but for its being dry, after the same questions to the approver. -/
theorem dry_run_predicts (quiet : approve.Quiet) (steady : approve.Steady)
    (separate : transformation.Separate root)
    (h : (transformation.run root false approve state disk tree).result = .ok summary) :
    (transformation.run root true approve state disk tree).result =
        .ok { summary with dryRun := true } ∧
      (transformation.run root true approve state disk tree).asked =
        (transformation.run root false approve state disk tree).asked := by
  obtain ⟨hdir, taken, reached, htaken, hmanifests, hrun, rfl⟩ := run_ok h
  have begin : (transformation.start true state tree).Shadows
      (transformation.targets.map (·.place root) ++ transformation.manifests.map (·.place root))
      (transformation.start false state tree) :=
    ⟨rfl, rfl, rfl, .refl tree, fun _ _ => rfl⟩
  obtain ⟨dry, hdry, shadows⟩ :=
    Progress.takeTargets_shadow root disk quiet steady _ _ separate htaken begin
  have hapart := (List.nodup_append.mp separate).2.1
  obtain ⟨dry', hdry', shadows'⟩ :=
    Progress.takeManifests_shadow root disk transformation.manifests hapart hmanifests shadows
  have hdryrun := run_of_taken hdir hdry
  rw [hdry'] at hdryrun
  rw [hdryrun, hrun]
  refine ⟨?_, shadows'.asked⟩
  exact congrArg Except.ok shadows'.summary

def refusal : Transformation :=
  ⟨.fixHandlers, "src".toList,
    [⟨"src/a.rs".toList, Catalog.fixAuthHandler⟩, ⟨"src/b.rs".toList, Catalog.fixAuthHandler⟩],
    [⟨"src/c.rs".toList, "mod c;".toList⟩]⟩

def refusalTree : Tree :=
  ⟨[(Place.ofPath "src".toList, .dir),
    (Place.ofPath "src/a.rs".toList, .file (.text "q(&**pool)".toList)),
    (Place.ofPath "src/b.rs".toList, .file (.text "r(&**pool)".toList))]⟩

def refusalSummary : Summary :=
  ⟨.fixHandlers, false,
    [⟨"src/a.rs".toList, .changed, ["pool-deref-normalize"]⟩,
      ⟨"src/b.rs".toList, .declined, ["pool-deref-normalize"]⟩],
    ⟨1, 0, 0, 1⟩, ["src/c.rs".toList]⟩

theorem dry_run_predicts_refusal :
    (refusal.run [] false refuseB () .sound refusalTree).result = .ok refusalSummary ∧
      (refusal.run [] true refuseB () .sound refusalTree).result =
        .ok { refusalSummary with dryRun := true } := by
  have quiet : refuseB.Quiet := fun _ _ _ _ => rfl
  have steady : refuseB.Steady := ⟨fun path _ => .ok (path ≠ "src/b.rs".toList), fun _ _ _ _ => rfl⟩
  have separate : refusal.Separate [] := by decide +kernel
  have h : (refusal.run [] false refuseB () .sound refusalTree).result = .ok refusalSummary := by
    decide +kernel
  exact ⟨h, (dry_run_predicts quiet steady separate h).1⟩

end Transformation

end Recast
