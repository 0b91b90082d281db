import Mathlib.Data.List.Basic
import Recast.Cli
import Recast.Proofs.Cli.Arguments
import Recast.Proofs.Run.Lockstep

/-! What the output flags of a run decide. Diffs are printed while the run is under way, as part of
asking for approval; the notes and the summary come before and after it. None of that reaches the
tree or the account, also when a later file ends the run. Whether a person is asked is not an output
flag: without a terminal it ends the run. -/

namespace Recast.Cli

def RunArgs.showing (args : RunArgs) (diff json verbose : Bool) : RunArgs :=
  { args with diff := diff, json := json, verbose := verbose }

theorem RunArgs.Askable.showing {args : RunArgs} (askable : args.Askable)
    (alone : args.interactive = false) (diff json verbose : Bool) :
    (args.showing diff json verbose).Askable := by
  refine ⟨askable.1, ?_⟩
  rintro ⟨-, hask⟩
  exact absurd (alone.symm.trans hask) Bool.false_ne_true

section

variable (color color' : Bool) (kind : Kind) (disk : Disk) (tree : Tree)

theorem approver_alike (args : RunArgs) (diff json verbose : Bool) :
    (approver color' (args.showing diff json verbose)).Alike (approver color args) := by
  intro printed printed' tree path revision
  exact ⟨rfl, rfl⟩

def printDiff (color : Bool) (args : RunArgs) (printed : Text) (question : Text × Revision) : Text :=
  if args.showsDiffs then printed ++ diffText color (question.2.diff question.1) else printed

theorem approver_notes (args : RunArgs) : (approver color args).Notes (printDiff color args) :=
  fun _ _ _ _ => rfl

/-- What is printed during a run are the diffs of the changes that were put to the approver, in
whatever way the run ends, or nothing. -/
theorem conduct_state (args : RunArgs) :
    (conduct color kind args disk tree).state =
      if args.showsDiffs then
        (conduct color kind args disk tree).asked.flatMap fun (path, revision) =>
          diffText color (revision.diff path)
      else [] := by
  have hstate : (conduct color kind args disk tree).state =
      (conduct color kind args disk tree).asked.foldl (printDiff color args) [] :=
    kind.transformation.run_state args.root args.dryRun disk (approver_notes color args) [] tree
  rw [hstate]
  by_cases hshows : args.showsDiffs = true
  · have hprint : printDiff color args = fun printed question =>
        printed ++ diffText color (question.2.diff question.1) := by
      funext printed question
      exact if_pos hshows
    rw [if_pos hshows, List.flatMap_eq_foldl, hprint]
  · rw [if_neg hshows]
    exact List.foldl_fixed' (fun question => if_neg hshows) _

theorem conduct_showing (args : RunArgs) (diff json verbose : Bool) :
    (conduct color' kind (args.showing diff json verbose) disk tree).result =
        (conduct color kind args disk tree).result ∧
      (conduct color' kind (args.showing diff json verbose) disk tree).tree =
        (conduct color kind args disk tree).tree := by
  have alike := approver_alike color color' args diff json verbose
  obtain ⟨hresult, htree, -⟩ :=
    kind.transformation.run_alike args.root args.dryRun disk alike [] [] tree
  exact ⟨hresult, htree⟩

theorem exit_runOutput (args : RunArgs) :
    (runOutput color kind args disk tree).1.exit =
      match (conduct color kind args disk tree).result with
      | .ok _ => 0
      | .error _ => 1 := by
  cases h : (conduct color kind args disk tree).result with
  | error stop => simp only [runOutput, h]
  | ok summary =>
    simp only [runOutput, h]
    split_ifs <;> rfl

/-- For a program there is nothing but the summary. -/
theorem runOutput_json {args : RunArgs} (json : args.json = true) :
    (runOutput color kind args disk tree).1 =
      match (conduct color kind args disk tree).result with
      | .ok summary => ⟨0, line ((summaryJson summary).pretty 0), []⟩
      | .error stop => ⟨1, [], stopReport stop⟩ := by
  have hstate : (conduct color kind args disk tree).state = [] := by
    rw [conduct_state, if_neg]
    simp [RunArgs.showsDiffs, json]
  cases h : (conduct color kind args disk tree).result with
  | error stop => simp [runOutput, h, hstate, json]
  | ok summary => simp [runOutput, h, hstate, json]

end

theorem execute_run {line : List Text} {kind : Kind} {args : RunArgs}
    (h : read line = .ok (.run kind args)) (color : Bool) (disk : Disk) (tree : Tree) :
    execute color line disk tree = runOutput color kind args disk tree := by
  simp only [execute, h]

/-- The output flags do not interfere with the rewrite. Whatever their setting, there is a command
line for it, and it leaves the same tree and ends with the same exit code after the same account, as
long as nobody is asked. For a program the output is the account and nothing else, or nothing where
there is none; and a program and a person are never served at once. -/
theorem output_flags_do_not_interfere {args : List Text} {kind : Kind} {given : RunArgs}
    (h : read args = .ok (.run kind given)) (color : Bool) (disk : Disk) (tree : Tree) :
    (given.json = true →
      given.interactive = false ∧
        match (conduct color kind given disk tree).result with
        | .ok summary =>
          (execute color args disk tree).1 = ⟨0, line ((summaryJson summary).pretty 0), []⟩
        | .error _ =>
          (execute color args disk tree).1.exit = 1 ∧ (execute color args disk tree).1.stdout = []) ∧
      (given.interactive = false → ∀ diff json verbose : Bool,
        (∃ args', read args' = .ok (.run kind (given.showing diff json verbose))) ∧
          ∀ color' args', read args' = .ok (.run kind (given.showing diff json verbose)) →
            (execute color' args' disk tree).2 = (execute color args disk tree).2 ∧
              (execute color' args' disk tree).1.exit = (execute color args disk tree).1.exit ∧
              (conduct color' kind (given.showing diff json verbose) disk tree).result =
                (conduct color kind given disk tree).result) := by
  have askable := askable_of_read h
  have hexecute := execute_run h color disk tree
  constructor
  · intro json
    refine ⟨Bool.eq_false_iff.mpr fun hask => askable.2 ⟨json, hask⟩, ?_⟩
    have houtput := runOutput_json color kind disk tree json
    rw [hexecute]
    cases hresult : (conduct color kind given disk tree).result with
    | ok summary =>
      rw [hresult] at houtput
      exact houtput
    | error stop =>
      rw [hresult] at houtput
      rw [houtput]
      exact ⟨rfl, rfl⟩
  · intro alone diff json verbose
    refine ⟨exists_read_iff.mpr (askable.showing alone diff json verbose), ?_⟩
    intro color' args' h'
    obtain ⟨hresult, htree⟩ := conduct_showing color color' kind disk tree given diff json verbose
    rw [execute_run h', hexecute, exit_runOutput, exit_runOutput, hresult]
    exact ⟨htree, rfl, rfl⟩

def jsonLine : List Text := ["fix-handlers".toList, "--json".toList]

def jsonArgs : RunArgs := ⟨['.'], false, false, false, true, false⟩

def plainLine : List Text := ["fix-handlers".toList, "--diff".toList, "-v".toList]

/-- Both runs stop at the third handler, which may not be written, after one change. -/
theorem output_flags_do_not_interfere_denied :
    read jsonLine = .ok (.run .fixHandlers jsonArgs) ∧
      read plainLine = .ok (.run .fixHandlers (jsonArgs.showing true false true)) ∧
      (execute false jsonLine Transformation.teamDenied Transformation.handlersTree).1.stdout = [] ∧
      (execute true plainLine Transformation.teamDenied Transformation.handlersTree).1.exit = 1 ∧
      (execute true plainLine Transformation.teamDenied Transformation.handlersTree).2 =
        (execute false jsonLine Transformation.teamDenied Transformation.handlersTree).2 := by
  have hjson : read jsonLine = .ok (.run .fixHandlers jsonArgs) := rfl
  have hplain : read plainLine = .ok (.run .fixHandlers (jsonArgs.showing true false true)) := rfl
  have hstop : (conduct false .fixHandlers jsonArgs Transformation.teamDenied
      Transformation.handlersTree).result =
        .error (.fault (.write "./src/handlers/team.rs".toList .denied)) := by
    decide +kernel
  obtain ⟨output, flags⟩ := output_flags_do_not_interfere hjson false Transformation.teamDenied
    Transformation.handlersTree
  have silent := output rfl
  rw [hstop] at silent
  have same := (flags rfl true false true).2 true plainLine hplain
  refine ⟨hjson, hplain, silent.2.2, ?_, same.1⟩
  rw [same.2.1]
  exact silent.2.1

end Recast.Cli
