import Mathlib.Data.List.Nodup
import Mathlib.Tactic.SplitIfs
import Recast.Cli.Args
import Recast.Proofs.Text

/-! Which runs can be asked for. A command line for a run names the transformation first, and any
setting of the options can be written down, except that nothing is no root and that no summary is
printed for a program while a person is asked. -/

namespace Recast.Cli

theorem bind_eq_ok {ε α β : Type} {x : Except ε α} {f : α → Except ε β} {b : β} :
    (x >>= f) = .ok b ↔ ∃ a, x = .ok a ∧ f a = .ok b := by
  cases x with
  | error cause => simp [bind, Except.bind]
  | ok a => simp [bind, Except.bind]

theorem map_eq_ok {ε α β : Type} {x : Except ε α} {f : α → β} {b : β} :
    x.map f = .ok b ↔ ∃ a, x = .ok a ∧ f a = b := by
  cases x with
  | error cause => simp [Except.map]
  | ok a => simp [Except.map]

theorem ofName?_eq_some_iff {word : Text} {kind : Kind} :
    Kind.ofName? (String.ofList word) = some kind ↔ word = kind.name.toList := by
  constructor
  · intro h
    have hname := List.find?_some h
    rw [beq_iff_eq] at hname
    rw [hname, String.toList_ofList]
  · rintro rfl
    rw [String.ofList_toList]
    exact Kind.ofName?_name kind

theorem ofText_name (kind : Kind) : Arg.ofText kind.name.toList = .word kind.name.toList := by
  cases kind <;> rfl

theorem eq_of_ofText_word {arg word : Text} (h : Arg.ofText arg = .word word) : arg = word := by
  unfold Arg.ofText at h
  split at h
  · cases h
  · split at h <;> cases h
  · cases h
    rfl
  · cases h
  · cases h
    rfl

theorem read_eq_run_iff {args : List Text} {kind : Kind} {given : RunArgs} :
    read args = .ok (.run kind given) ↔
      ∃ more, args = kind.name.toList :: more ∧ readRun more = .ok given := by
  constructor
  · intro h
    unfold read at h
    split at h
    · cases h
    · rename_i arg more
      refine ⟨more, ?_⟩
      split at h
      · split at h <;> cases h
      · split_ifs at h
      · cases h
      · rename_i word hword
        obtain rfl := eq_of_ofText_word hword
        split at h
        · rename_i kind' hkind
          obtain ⟨given', hread, hrun⟩ := map_eq_ok.mp h
          cases hrun
          rw [ofName?_eq_some_iff.mp hkind]
          exact ⟨rfl, hread⟩
        · split_ifs at h
          · obtain ⟨_, _, hrun⟩ := map_eq_ok.mp h
            cases hrun
          · split at h
            · cases h
            · cases h
            · cases h
  · rintro ⟨more, rfl, hread⟩
    simp only [read, ofText_name]
    rw [ofName?_eq_some_iff.mpr rfl]
    simp only [hread]
    rfl

namespace RunDraft

variable {draft reached : RunDraft}

def Rooted (draft : RunDraft) : Prop := draft.root ≠ some []

theorem rooted_initial : initial.Rooted := by
  intro h
  cases h

theorem setRoot_rooted {value : Text} (h : draft.setRoot value = .ok reached) :
    reached.Rooted := by
  unfold setRoot at h
  split_ifs at h with hset hempty
  cases h
  intro hroot
  cases hroot
  exact hempty rfl

theorem settle_rooted (h : draft.settle = .ok reached) (rooted : draft.Rooted) :
    reached.Rooted := by
  unfold settle at h
  split at h
  · cases h
    exact rooted
  · cases h
  · exact setRoot_rooted h

theorem take_rooted {option : RunOption} (h : draft.take option = .ok reached)
    (rooted : draft.Rooted) : reached.Rooted := by
  obtain ⟨settled, hsettled, h⟩ := bind_eq_ok.mp h
  have hrooted := settle_rooted hsettled rooted
  cases option with
  | help => cases h
  | root =>
    cases h
    exact hrooted
  | switch s =>
    dsimp only at h
    split_ifs at h
    cases h
    exact hrooted

theorem takeLong_rooted {name : Text} {value : Option Text}
    (h : draft.takeLong name value = .ok reached) (rooted : draft.Rooted) : reached.Rooted := by
  unfold takeLong at h
  split at h
  · cases h
  · exact take_rooted h rooted
  · obtain ⟨settled, _, h⟩ := bind_eq_ok.mp h
    exact setRoot_rooted h
  · cases h

theorem takeShort_rooted {names : Text} :
    ∀ {draft : RunDraft}, draft.takeShort names = .ok reached → draft.Rooted →
      reached.Rooted := by
  induction names with
  | nil =>
    intro draft h rooted
    cases h
    exact rooted
  | cons c names ih =>
    intro draft h rooted
    unfold takeShort at h
    rw [List.foldlM_cons] at h
    obtain ⟨next, hnext, h⟩ := bind_eq_ok.mp h
    split at hnext
    · cases hnext
    · exact ih h (take_rooted hnext rooted)

theorem read_rooted {args : List Text} :
    ∀ {draft : RunDraft}, draft.read args = .ok reached → draft.Rooted → reached.Rooted := by
  induction args with
  | nil =>
    intro draft h rooted
    exact settle_rooted h rooted
  | cons arg more ih =>
    intro draft h rooted
    unfold read at h
    split at h
    · split_ifs at h
      exact settle_rooted h rooted
    · split at h
      · cases h
      · rename_i next hnext
        exact ih h (takeLong_rooted hnext rooted)
    · split at h
      · cases h
      · rename_i next hnext
        exact ih h (takeShort_rooted hnext rooted)
    · split at h
      · exact ih h rooted
      · cases h

end RunDraft

namespace Switch

def longName : Switch → String
  | dryRun => "dry-run"
  | diff => "diff"
  | interactive => "interactive"
  | json => "json"
  | verbose => "verbose"

def flag (s : Switch) : Text := '-' :: '-' :: s.longName.toList

theorem ofText_flag (s : Switch) : Arg.ofText s.flag = .long s.longName.toList none := by
  cases s <;> rfl

theorem ofLong?_longName (s : Switch) :
    RunOption.ofLong? s.longName.toList = some (.switch s) := by
  unfold RunOption.ofLong?
  rw [String.ofList_toList]
  cases s <;> rfl

theorem read_flag (s : Switch) (root : Option Text) {on : List Switch} (hnew : s ∉ on)
    (more : List Text) :
    RunDraft.read ⟨root, none, on⟩ (s.flag :: more) =
      RunDraft.read ⟨root, none, on ++ [s]⟩ more := by
  have htake : RunDraft.take ⟨root, none, on⟩ (.switch s) = .ok ⟨root, none, on ++ [s]⟩ := by
    simp [RunDraft.take, RunDraft.settle, hnew, bind, Except.bind]
  have hlong : RunDraft.takeLong ⟨root, none, on⟩ s.longName.toList none =
      .ok ⟨root, none, on ++ [s]⟩ := by
    simp only [RunDraft.takeLong, ofLong?_longName, htake]
  rw [RunDraft.read, ofText_flag]
  simp only [hlong]

theorem read_flags (root : Option Text) (flags : List Switch) :
    ∀ {on : List Switch}, (on ++ flags).Nodup →
      RunDraft.read ⟨root, none, on⟩ (flags.map flag) = .ok ⟨root, none, on ++ flags⟩ := by
  induction flags with
  | nil =>
    intro on _
    simp [RunDraft.read, RunDraft.settle]
  | cons s flags ih =>
    intro on hnodup
    have hnew : s ∉ on := by
      intro hs
      exact (List.nodup_append.mp hnodup).2.2 s hs s List.mem_cons_self rfl
    have hsplit : on ++ s :: flags = on ++ [s] ++ flags := by simp
    rw [hsplit] at hnodup ⊢
    rw [List.map_cons, s.read_flag root hnew, ih hnodup]

end Switch

theorem RunDraft.read_root {root : Text} (hroot : root ≠ []) (more : List Text) :
    initial.read (("--root=".toList ++ root) :: more) = read ⟨some root, none, []⟩ more := by
  have hshape : Arg.ofText ("--root=".toList ++ root) = .long "root".toList (some root) := by
    have hsplit : Text.splitOnce? ['='] ("root".toList ++ ('=' :: ([] ++ root))) =
        some ("root".toList, root) := Text.splitOnce?_of_notin (by decide) [] root
    have hlead : "--root=".toList ++ root =
        '-' :: '-' :: ("root".toList ++ ('=' :: ([] ++ root))) := rfl
    rw [hlead, Arg.ofText]
    · rw [hsplit]
    · intro h
      cases h
  have hlong : initial.takeLong "root".toList (some root) = .ok ⟨some root, none, []⟩ := by
    have hset : initial.setRoot root = .ok ⟨some root, none, []⟩ := by
      simp [setRoot, initial, hroot]
    have hname : RunOption.ofLong? "root".toList = some .root := rfl
    simp only [takeLong, hname]
    exact bind_eq_ok.mpr ⟨initial, rfl, hset⟩
  rw [read, hshape]
  simp only [hlong]

namespace RunArgs

def has (args : RunArgs) : Switch → Bool
  | .dryRun => args.dryRun
  | .diff => args.diff
  | .interactive => args.interactive
  | .json => args.json
  | .verbose => args.verbose

def switches (args : RunArgs) : List Switch :=
  [.dryRun, .diff, .interactive, .json, .verbose].filter args.has

/-- There are command lines for these arguments. -/
def Askable (args : RunArgs) : Prop :=
  args.root ≠ [] ∧ ¬(args.json = true ∧ args.interactive = true)

theorem nodup_switches (args : RunArgs) : args.switches.Nodup :=
  List.Nodup.filter _ (by decide)

theorem contains_switches (args : RunArgs) (s : Switch) :
    args.switches.contains s = args.has s := by
  cases s <;> simp [switches]

end RunArgs

theorem RunDraft.finish_ok_iff {draft : RunDraft} {given : RunArgs} :
    draft.finish = .ok given ↔
      given.root = draft.root.getD ['.'] ∧
        (∀ s, given.has s = draft.switches.contains s) ∧
          ¬(given.json = true ∧ given.interactive = true) := by
  unfold finish
  dsimp only
  constructor
  · intro h
    split_ifs at h with hboth
    cases h
    refine ⟨rfl, fun s => ?_, by simpa using hboth⟩
    cases s <;> rfl
  · rintro ⟨hroot, hswitches, hapart⟩
    have hfit : ¬(draft.switches.contains .json && draft.switches.contains .interactive) = true := by
      rw [← hswitches, ← hswitches, Bool.and_eq_true]
      exact hapart
    rw [if_neg hfit]
    simp only [← hroot, ← hswitches]
    rfl

def commandLine (kind : Kind) (args : RunArgs) : List Text :=
  kind.name.toList :: ("--root=".toList ++ args.root) :: args.switches.map Switch.flag

theorem read_commandLine (kind : Kind) {args : RunArgs} (askable : args.Askable) :
    read (commandLine kind args) = .ok (.run kind args) := by
  rw [read_eq_run_iff]
  refine ⟨_, rfl, ?_⟩
  obtain ⟨hroot, hapart⟩ := askable
  have hread : RunDraft.initial.read
      (("--root=".toList ++ args.root) :: args.switches.map Switch.flag) =
      .ok ⟨some args.root, none, args.switches⟩ := by
    rw [RunDraft.read_root hroot, Switch.read_flags _ _ args.nodup_switches, List.nil_append]
  have hfinish : RunDraft.finish ⟨some args.root, none, args.switches⟩ = .ok args :=
    RunDraft.finish_ok_iff.mpr ⟨rfl, fun s => (args.contains_switches s).symm, hapart⟩
  exact bind_eq_ok.mpr ⟨_, hread, hfinish⟩

theorem askable_of_read {line : List Text} {kind : Kind} {args : RunArgs}
    (h : read line = .ok (.run kind args)) : args.Askable := by
  obtain ⟨more, -, hrun⟩ := read_eq_run_iff.mp h
  obtain ⟨draft, hread, hfinish⟩ := bind_eq_ok.mp hrun
  obtain ⟨hroot, -, hapart⟩ := RunDraft.finish_ok_iff.mp hfinish
  have rooted := RunDraft.read_rooted hread RunDraft.rooted_initial
  refine ⟨?_, hapart⟩
  rw [hroot]
  cases hset : draft.root with
  | none => exact List.cons_ne_nil _ _
  | some root =>
    rintro rfl
    exact rooted hset

/-- The command lines for runs give exactly the settings that go together, each with some root. -/
theorem exists_read_iff {kind : Kind} {args : RunArgs} :
    (∃ line, read line = .ok (.run kind args)) ↔ args.Askable :=
  ⟨fun ⟨_, h⟩ => askable_of_read h, fun askable => ⟨_, read_commandLine kind askable⟩⟩

end Recast.Cli
