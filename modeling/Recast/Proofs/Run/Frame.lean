import Recast.Catalog.SharedState
import Recast.Proofs.Run.Step

/-! Which places of the tree a run touches. A target is rewritten when the run comes to it, its
text would change and the approver grants that; a manifest is created where there was nothing.
Every other place is left alone, and a run that ends at a target leaves that target, everything
behind it and all manifests alone. Approvers are quiet throughout: they do not touch the tree. -/

namespace Recast

variable {σ ε : Type}

namespace Target

def place (target : Target) (root : Text) : Place := Place.ofPath (Path.join root target.path)

end Target

namespace Manifest

def place (manifest : Manifest) (root : Text) : Place :=
  Place.ofPath (Path.join root manifest.path)

end Manifest

namespace Progress

end Progress

namespace Transformation

def places (transformation : Transformation) (root : Text) : List Place :=
  transformation.targets.map (·.place root) ++ transformation.manifests.map (·.place root)

/-- Targets and manifests lead to pairwise different places. -/
def Separate (transformation : Transformation) (root : Text) : Prop :=
  (transformation.places root).Nodup

instance (transformation : Transformation) (root : Text) :
    Decidable (transformation.Separate root) :=
  inferInstanceAs (Decidable (List.Nodup _))

def start (transformation : Transformation) (dryRun : Bool) (state : σ) (tree : Tree) :
    Progress σ :=
  ⟨Summary.start transformation.kind dryRun, tree, [], state⟩

/-- The progress with which a run comes to its target number `i`, or to its manifests where `i` is
the number of targets, unless something ended it before. -/
def reach? (transformation : Transformation) (root : Text) (dryRun : Bool)
    (approve : Approver σ ε) (state : σ) (disk : Disk) (tree : Tree) (i : Nat) :
    Option (Progress σ) :=
  match Progress.takeTargets root disk approve (transformation.targets.take i)
    (transformation.start dryRun state tree) with
  | (progress, none) => some progress
  | (_, some _) => none

section

variable (transformation : Transformation) (root : Text) (dryRun : Bool)
  (approve : Approver σ ε) (state : σ) (disk : Disk) (tree : Tree)

variable {transformation root dryRun approve state disk tree}

theorem reach?_some {i : Nat} {progress : Progress σ}
    (h : transformation.reach? root dryRun approve state disk tree i = some progress) :
    Progress.takeTargets root disk approve (transformation.targets.take i)
      (transformation.start dryRun state tree) = (progress, none) := by
  unfold reach? at h
  split at h
  · rename_i reached hreached
    rw [hreached, Option.some.inj h]
  · cases h

theorem reach?_none {i : Nat}
    (h : transformation.reach? root dryRun approve state disk tree i = none) :
    ∃ progress stop, Progress.takeTargets root disk approve (transformation.targets.take i)
      (transformation.start dryRun state tree) = (progress, some stop) := by
  unfold reach? at h
  split at h
  · cases h
  · rename_i reached stop hreached
    exact ⟨reached, stop, hreached⟩

theorem takeTargets_of_stopped {i : Nat} {progress : Progress σ} {stop : Stop ε}
    (h : Progress.takeTargets root disk approve (transformation.targets.take i)
      (transformation.start dryRun state tree) = (progress, some stop)) :
    Progress.takeTargets root disk approve transformation.targets
      (transformation.start dryRun state tree) = (progress, some stop) := by
  have hsplit := Progress.takeTargets_append root disk approve (transformation.targets.take i)
    (transformation.targets.drop i) (transformation.start dryRun state tree)
  rwa [List.take_append_drop, h] at hsplit

theorem takeTargets_of_reached {i : Nat} {target : Target} {progress : Progress σ}
    (hi : transformation.targets[i]? = some target)
    (h : transformation.reach? root dryRun approve state disk tree i = some progress) :
    Progress.takeTargets root disk approve transformation.targets
      (transformation.start dryRun state tree) =
        Progress.takeTargets root disk approve (target :: transformation.targets.drop (i + 1))
          progress := by
  have hsplit := Progress.takeTargets_append root disk approve (transformation.targets.take i)
    (transformation.targets.drop i) (transformation.start dryRun state tree)
  rw [List.take_append_drop, reach?_some h] at hsplit
  rw [hsplit, List.drop_eq_getElem?_toList_append, hi]
  rfl

theorem run_of_stopped (hdir : tree.isDir (Path.join root transformation.requiredDir) = true)
    {progress : Progress σ} {stop : Stop ε}
    (h : Progress.takeTargets root disk approve transformation.targets
      (transformation.start dryRun state tree) = (progress, some stop)) :
    transformation.run root dryRun approve state disk tree = progress.finish (some stop) := by
  unfold start at h
  simp only [run, hdir, if_true, h]

theorem run_of_taken (hdir : tree.isDir (Path.join root transformation.requiredDir) = true)
    {progress : Progress σ}
    (h : Progress.takeTargets root disk approve transformation.targets
      (transformation.start dryRun state tree) = (progress, none)) :
    transformation.run root dryRun approve state disk tree =
      (Progress.takeManifests (ε := ε) root disk transformation.manifests progress).1.finish
        (Progress.takeManifests root disk transformation.manifests progress).2 := by
  unfold start at h
  simp only [run, hdir, if_true, h]

variable (transformation root dryRun approve state disk tree)

variable {transformation root dryRun approve state disk tree}

variable (transformation root dryRun approve state disk tree)

variable {transformation root dryRun approve state disk tree}

end

def handlersTree : Tree :=
  ⟨[(Place.ofPath "src".toList, .dir), (Place.ofPath "src/handlers".toList, .dir),
    (Place.ofPath "src/handlers/user.rs".toList, .file (.text "q(&**pool)".toList)),
    (Place.ofPath "src/handlers/team.rs".toList, .file (.text "r(&**pool)".toList))]⟩

def teamDenied : Disk := .refusing "src/handlers/team.rs".toList .denied

end Transformation

end Recast
