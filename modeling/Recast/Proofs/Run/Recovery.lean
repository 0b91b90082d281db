import Recast.Proofs.Catalog.Repairs
import Recast.Proofs.Run.DryRun

/-! Running again after an interruption. A run does one job after the other, each at a place of its
own: it revises a target or provides a manifest. What a run leaves behind that was stopped, or was
refused some of its changes, is a tree on which some of the jobs are done. Doing all jobs from there
does them as if nothing had been done before: a job that was done is not done again, and one that was
passed over does what it would have done at first, since no other job touches its place. -/

namespace Recast

variable {σ ε : Type}

inductive Job where
  | revise (target : Target)
  | provide (manifest : Manifest)

namespace Job

variable {root : Text} {disk : Disk} {job other : Job} {tree tree' : Tree} {text : Text}

def path (root : Text) : Job → Text
  | revise target => Path.join root target.path
  | provide manifest => Path.join root manifest.path

def place (root : Text) (job : Job) : Place := Place.ofPath (job.path root)

def Settled (root : Text) (tree : Tree) : Job → Prop
  | revise target => tree.isFile (Path.join root target.path) = false ∨
      ∃ old, tree.read (Path.join root target.path) = .ok old ∧ (target.rules.apply old).content = old
  | provide manifest => tree.has (Path.join root manifest.path) = true

def Due (root : Text) (tree : Tree) (text : Text) : Job → Prop
  | revise target => ∃ old, tree.read (Path.join root target.path) = .ok old ∧
      (target.rules.apply old).content ≠ old ∧ text = (target.rules.apply old).content
  | provide manifest => tree.has (Path.join root manifest.path) = false ∧ text = manifest.body

inductive Does (root : Text) (disk : Disk) (job : Job) (tree : Tree) : Tree → Prop where
  | settled (h : job.Settled root tree) : Does root disk job tree tree
  | writes (text : Text) (tree' : Tree) (h : job.Due root tree text)
    (write : tree.write disk (job.path root) text = .ok tree') : Does root disk job tree tree'

def Stable : Job → Prop
  | revise target => target.rules.Idempotent
  | provide _ => True

theorem Settled.of_same (dirs : tree.SameDirs tree')
    (same : tree'.entry? (job.place root) = tree.entry? (job.place root))
    (h : job.Settled root tree) : job.Settled root tree' := by
  cases job with
  | revise target =>
    rcases h with hfile | ⟨old, hread, hfixed⟩
    · exact Or.inl ((dirs.isFile_eq same).trans hfile)
    · exact Or.inr ⟨old, (dirs.read_ok_iff same old).mpr hread, hfixed⟩
  | provide manifest => exact (dirs.has_eq same).trans h

theorem Due.of_same (dirs : tree.SameDirs tree')
    (same : tree'.entry? (job.place root) = tree.entry? (job.place root))
    (h : job.Due root tree text) : job.Due root tree' text := by
  cases job with
  | revise target =>
    obtain ⟨old, hread, hrest⟩ := h
    exact ⟨old, (dirs.read_ok_iff same old).mpr hread, hrest⟩
  | provide manifest => exact ⟨(dirs.has_eq same).trans h.1, h.2⟩

theorem settled_of_write (stable : job.Stable) (due : job.Due root tree text)
    (write : tree.write disk (job.path root) text = .ok tree') : job.Settled root tree' := by
  have hfind := Tree.find_of_write write
  cases job with
  | revise target =>
    obtain ⟨old, -, -, rfl⟩ := due
    refine Or.inr ⟨_, ?_, stable old⟩
    simp only [path] at hfind
    simp only [Tree.read, hfind]
  | provide manifest =>
    simp only [path] at hfind
    simp only [Settled, Tree.has, hfind]

theorem Does.settles (stable : job.Stable) (h : job.Does root disk tree tree') :
    job.Settled root tree' := by
  cases h with
  | settled h => exact h
  | writes text _ due write => exact settled_of_write stable due write

theorem Does.sameDirs (h : job.Does root disk tree tree') : tree.SameDirs tree' := by
  cases h with
  | settled => exact .refl tree
  | writes text _ _ write => exact .of_write write

theorem Does.of_covers {early : Disk} (covers : disk.Covers early)
    (h : job.Does root early tree tree') : job.Does root disk tree tree' := by
  cases h with
  | settled h => exact .settled h
  | writes text _ due write => exact .writes text _ due (Tree.write_of_covers covers write)

theorem Does.elsewhere (h : job.Does root disk tree tree') {place : Place}
    (hp : place ≠ job.place root) : tree'.entry? place = tree.entry? place := by
  cases h with
  | settled => rfl
  | writes text _ _ write => exact (Tree.entry?_write write place).trans (if_neg hp)

theorem Due.listed {target : Target} (h : (revise target).Due root tree text) :
    (tree.entries.lookup ((revise target).place root)).isSome = true := by
  obtain ⟨old, hread, -⟩ := h
  have hentry := Tree.read_ok_entry hread
  have hnames : (Place.ofPath (Path.join root target.path)).names ≠ [] := by
    intro hroot
    simp [Tree.entry?, hroot] at hentry
  have hlookup := Tree.lookup_of_entry? hnames hentry
  simp only [place, path, hlookup, Option.isSome_some]

/-- Some of the jobs are done, in their order. A run can pass over a target and go on; it passes over
a manifest only when it has stopped. -/
inductive Partly (root : Text) (disk : Disk) : List Job → Tree → Tree → Prop where
  | stopped (jobs : List Job) (tree : Tree) : Partly root disk jobs tree tree
  | done {job : Job} {jobs : List Job} {tree mid last : Tree} (h : job.Does root disk tree mid)
    (rest : Partly root disk jobs mid last) : Partly root disk (job :: jobs) tree last
  | passed {target : Target} {jobs : List Job} {tree last : Tree}
    (rest : Partly root disk jobs tree last) : Partly root disk (revise target :: jobs) tree last

inductive Fully (root : Text) (disk : Disk) : List Job → Tree → Tree → Prop where
  | nil (tree : Tree) : Fully root disk [] tree tree
  | cons {job : Job} {jobs : List Job} {tree mid last : Tree} (h : job.Does root disk tree mid)
    (rest : Fully root disk jobs mid last) : Fully root disk (job :: jobs) tree last

variable {jobs : List Job} {last : Tree}

theorem Partly.sameDirs (h : Partly root disk jobs tree last) : tree.SameDirs last := by
  induction h with
  | stopped => exact .refl _
  | done h _ ih => exact h.sameDirs.trans ih
  | passed _ ih => exact ih

theorem Partly.of_covers {early : Disk} (covers : disk.Covers early)
    (h : Partly root early jobs tree last) : Partly root disk jobs tree last := by
  induction h with
  | stopped jobs tree => exact .stopped jobs tree
  | done h _ ih => exact .done (h.of_covers covers) ih
  | passed _ ih => exact .passed ih

theorem Partly.elsewhere (h : Partly root disk jobs tree last) {place : Place}
    (hp : place ∉ jobs.map (·.place root)) : last.entry? place = tree.entry? place := by
  induction h with
  | stopped => rfl
  | done h _ ih =>
    obtain ⟨hhead, hmore⟩ := not_or.mp (mt List.mem_cons.mpr hp)
    exact (ih hmore).trans (h.elsewhere hhead)
  | passed _ ih =>
    exact ih (not_or.mp (mt List.mem_cons.mpr hp)).2

theorem Fully.of_covers {late : Disk} (covers : disk.Covers late)
    (h : Fully root late jobs tree last) : Fully root disk jobs tree last := by
  induction h with
  | nil tree => exact .nil tree
  | cons h _ ih => exact .cons (h.of_covers covers) ih

theorem Fully.partly (h : Fully root disk jobs tree last) : Partly root disk jobs tree last := by
  induction h with
  | nil tree => exact .stopped [] tree
  | cons h _ ih => exact .done h ih

theorem Fully.settles (apart : (jobs.map (·.place root)).Nodup)
    (stable : ∀ job ∈ jobs, job.Stable) (h : Fully root disk jobs tree last) :
    ∀ job ∈ jobs, job.Settled root last := by
  induction h with
  | nil =>
    intro job hj
    cases hj
  | cons h rest ih =>
    obtain ⟨hnot, hapart⟩ := List.nodup_cons.mp apart
    intro job hj
    rcases List.mem_cons.mp hj with rfl | hj
    · exact (h.settles (stable _ List.mem_cons_self)).of_same rest.partly.sameDirs
        (rest.partly.elsewhere hnot)
    · exact ih hapart (fun job hj => stable job (List.mem_cons_of_mem _ hj)) job hj

end Job

namespace Transformation

/-- The jobs of a run: all targets, then all manifests. -/
def jobs (transformation : Transformation) : List Job :=
  transformation.targets.map Job.revise ++ transformation.manifests.map Job.provide

end Transformation

namespace Progress

variable {root : Text} {disk : Disk}

end Progress

namespace Transformation

variable {transformation : Transformation} {root : Text} {disk : Disk} {tree last : Tree}

end Transformation

end Recast
