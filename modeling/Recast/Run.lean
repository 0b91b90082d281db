import Recast.Revision
import Recast.Transformation

/-!
Runs of a transformation over a file tree. Targets are taken in order, then manifests. A target
that is not a file is recorded and passed over; any other failure ends the run there, and what was
written before it stays.
-/

namespace Recast

inductive Status where
  | changed
  | unchanged
  | missing
  | declined
deriving DecidableEq, Repr

namespace Status

def name : Status → String
  | changed => "changed"
  | unchanged => "unchanged"
  | missing => "missing"
  | declined => "declined"

end Status

structure FileResult where
  path : Text
  status : Status
  rules : List String
deriving DecidableEq, Repr

structure Tally where
  changed : Nat
  unchanged : Nat
  missing : Nat
  declined : Nat
deriving DecidableEq, Repr

namespace Tally

def zero : Tally := ⟨0, 0, 0, 0⟩

def add (tally : Tally) : Status → Tally
  | .changed => { tally with changed := tally.changed + 1 }
  | .unchanged => { tally with unchanged := tally.unchanged + 1 }
  | .missing => { tally with missing := tally.missing + 1 }
  | .declined => { tally with declined := tally.declined + 1 }

end Tally

structure Summary where
  kind : Kind
  dryRun : Bool
  files : List FileResult
  tally : Tally
  created : List Text
deriving DecidableEq, Repr

namespace Summary

def start (kind : Kind) (dryRun : Bool) : Summary := ⟨kind, dryRun, [], Tally.zero, []⟩

def record (summary : Summary) (result : FileResult) : Summary :=
  { summary with
    files := summary.files ++ [result]
    tally := summary.tally.add result.status }

end Summary

/-- What an approver answers: whether to go ahead, or why it cannot say. It may change its own
state, and it may touch the tree. -/
structure Reply (σ ε : Type) where
  verdict : Except ε Bool
  state : σ
  tree : Tree

/-- Decides about the change of a target, given the target's path and the revision. -/
abbrev Approver (σ ε : Type) := σ → Tree → Text → Revision → Reply σ ε

namespace Approver

def Quiet {σ ε : Type} (approve : Approver σ ε) : Prop :=
  ∀ state tree path revision, (approve state tree path revision).tree = tree

def always {ε : Type} : Approver Unit ε := fun _ tree _ _ => ⟨.ok true, (), tree⟩

end Approver

inductive Stop (ε : Type) where
  | fault (fault : Fault)
  | approval (cause : ε)
deriving DecidableEq, Repr

structure Progress (σ : Type) where
  summary : Summary
  tree : Tree
  asked : List (Text × Revision)
  state : σ

namespace Progress

variable {σ ε : Type}

def record (progress : Progress σ) (path : Text) (status : Status) (rules : List String) :
    Progress σ :=
  { progress with summary := progress.summary.record ⟨path, status, rules⟩ }

def ask (approve : Approver σ ε) (progress : Progress σ) (path : Text) (revision : Revision) :
    Except ε Bool × Progress σ :=
  let reply := approve progress.state progress.tree path revision
  (reply.verdict,
    { progress with
      tree := reply.tree
      asked := progress.asked ++ [(path, revision)]
      state := reply.state })

def takeTarget (root : Text) (disk : Disk) (approve : Approver σ ε) (progress : Progress σ)
    (target : Target) : Progress σ × Option (Stop ε) :=
  let path := Path.join root target.path
  if progress.tree.isFile path then
    match Revision.plan progress.tree path target.rules with
    | .error fault => (progress, some (.fault fault))
    | .ok revision =>
      if revision.changed then
        match progress.ask approve target.path revision with
        | (.error cause, progress) => (progress, some (.approval cause))
        | (.ok false, progress) => (progress.record target.path .declined revision.fired, none)
        | (.ok true, progress) =>
          if progress.summary.dryRun then
            (progress.record target.path .changed revision.fired, none)
          else
            match revision.commit disk progress.tree path with
            | .error fault => (progress, some (.fault fault))
            | .ok (_, tree) =>
              ({ progress with tree := tree }.record target.path .changed revision.fired, none)
      else (progress.record target.path .unchanged revision.fired, none)
  else (progress.record target.path .missing [], none)

def takeTargets (root : Text) (disk : Disk) (approve : Approver σ ε) :
    List Target → Progress σ → Progress σ × Option (Stop ε)
  | [], progress => (progress, none)
  | t :: more, progress =>
    match progress.takeTarget root disk approve t with
    | (progress, none) => takeTargets root disk approve more progress
    | (progress, some stop) => (progress, some stop)

/-- Takes one manifest. One that exists is left alone, whatever it is. -/
def takeManifest (root : Text) (disk : Disk) (progress : Progress σ) (manifest : Manifest) :
    Progress σ × Option (Stop ε) :=
  let path := Path.join root manifest.path
  let created := { progress.summary with created := progress.summary.created ++ [manifest.path] }
  if progress.tree.has path then (progress, none)
  else if progress.summary.dryRun then ({ progress with summary := created }, none)
  else
    match progress.tree.write disk path manifest.body with
    | .error cause => (progress, some (.fault (.write path cause)))
    | .ok tree => ({ progress with tree := tree, summary := created }, none)

def takeManifests (root : Text) (disk : Disk) :
    List Manifest → Progress σ → Progress σ × Option (Stop ε)
  | [], progress => (progress, none)
  | m :: more, progress =>
    match progress.takeManifest root disk m with
    | (progress, none) => takeManifests root disk more progress
    | (progress, some stop) => (progress, some stop)

end Progress

structure Outcome (σ ε : Type) where
  result : Except (Stop ε) Summary
  tree : Tree
  asked : List (Text × Revision)
  state : σ

namespace Progress

variable {σ ε : Type}

def finish (progress : Progress σ) (stop : Option (Stop ε)) : Outcome σ ε :=
  ⟨match stop with
    | none => .ok progress.summary
    | some stop => .error stop,
    progress.tree, progress.asked, progress.state⟩

end Progress

namespace Transformation

variable {σ ε : Type}

/-- Runs a transformation over the tree under a root. Without the required directory nothing is
touched. -/
def run (transformation : Transformation) (root : Text) (dryRun : Bool) (approve : Approver σ ε)
    (state : σ) (disk : Disk) (tree : Tree) : Outcome σ ε :=
  let start : Progress σ := ⟨Summary.start transformation.kind dryRun, tree, [], state⟩
  let required := Path.join root transformation.requiredDir
  if tree.isDir required then
    match Progress.takeTargets root disk approve transformation.targets start with
    | (progress, some stop) => progress.finish (some stop)
    | (progress, none) =>
      let (progress, stop) := Progress.takeManifests root disk transformation.manifests progress
      progress.finish stop
  else start.finish (some (.fault (.missingRoot required)))

end Transformation

end Recast
