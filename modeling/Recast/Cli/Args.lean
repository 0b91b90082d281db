import Recast.Transformation

/-!
The command line. Arguments are read from left to right and the first fault decides. The value of
an option stays pending until the next flag that is known, or the end, settles it: so a flag that
is not known at all is reported before a value that is not acceptable.
-/

namespace Recast.Cli

/-- How a run is to be done and shown. -/
structure RunArgs where
  root : Text
  dryRun : Bool
  diff : Bool
  interactive : Bool
  json : Bool
  verbose : Bool
deriving DecidableEq, Repr

inductive Command where
  | run (kind : Kind) (args : RunArgs)
  | rules (kind : Option Kind)
deriving DecidableEq, Repr

inductive Usage where
  | noCommand
  | help
  | version
  | unknownCommand
  | unknownArgument
  | badValue
  | conflict
  | surplusValue
deriving DecidableEq, Repr

inductive Switch where
  | dryRun
  | diff
  | interactive
  | json
  | verbose
deriving DecidableEq, Repr

inductive RunOption where
  | root
  | switch (s : Switch)
  | help
deriving DecidableEq, Repr

namespace RunOption

def ofLong? (name : Text) : Option RunOption :=
  match String.ofList name with
  | "root" => some root
  | "dry-run" => some (switch .dryRun)
  | "diff" => some (switch .diff)
  | "interactive" => some (switch .interactive)
  | "json" => some (switch .json)
  | "verbose" => some (switch .verbose)
  | "help" => some help
  | _ => none

def ofShort? : Char → Option RunOption
  | 'i' => some (switch .interactive)
  | 'v' => some (switch .verbose)
  | 'h' => some help
  | _ => none

end RunOption

inductive Arg where
  | stop
  | long (name : Text) (value : Option Text)
  | short (names : Text)
  | word (text : Text)
deriving DecidableEq, Repr

def Arg.ofText : Text → Arg
  | ['-', '-'] => stop
  | '-' :: '-' :: rest =>
    match Text.splitOnce? ['='] rest with
    | some (name, value) => long name (some value)
    | none => long rest none
  | ['-'] => word ['-']
  | '-' :: names => short names
  | text => word text

structure RunDraft where
  root : Option Text
  pending : Option (Option Text)
  switches : List Switch
deriving DecidableEq, Repr

namespace RunDraft

def initial : RunDraft := ⟨none, none, []⟩

def setRoot (draft : RunDraft) (value : Text) : Except Usage RunDraft :=
  if draft.root.isSome then .error .conflict
  else if value.isEmpty then .error .badValue
  else .ok { draft with root := some value }

def settle (draft : RunDraft) : Except Usage RunDraft :=
  match draft.pending with
  | none => .ok draft
  | some none => .error .badValue
  | some (some value) => { draft with pending := none }.setRoot value

/-- Takes up a known option without a value of its own. No switch may be given twice. -/
def take (draft : RunDraft) (option : RunOption) : Except Usage RunDraft := do
  let draft ← draft.settle
  match option with
  | .help => .error .help
  | .root => .ok { draft with pending := some none }
  | .switch s =>
    if draft.switches.contains s then .error .conflict
    else .ok { draft with switches := draft.switches ++ [s] }

def takeLong (draft : RunDraft) (name : Text) (value : Option Text) : Except Usage RunDraft :=
  match RunOption.ofLong? name, value with
  | none, _ => .error .unknownArgument
  | some option, none => draft.take option
  | some .root, some value => do
    let draft ← draft.settle
    draft.setRoot value
  | some _, some _ => .error .surplusValue

def takeShort (draft : RunDraft) (names : Text) : Except Usage RunDraft :=
  names.foldlM (fun draft c =>
    match RunOption.ofShort? c with
    | none => .error .unknownArgument
    | some option => draft.take option) draft

/-- Reads the arguments of a run. Words are taken only as the value of an option, and none after
the mark that ends options. -/
def read (draft : RunDraft) : List Text → Except Usage RunDraft
  | [] => draft.settle
  | arg :: more =>
    match Arg.ofText arg with
    | .stop => if more.isEmpty then draft.settle else .error .unknownArgument
    | .long name value =>
      match draft.takeLong name value with
      | .error usage => .error usage
      | .ok draft => read draft more
    | .short names =>
      match draft.takeShort names with
      | .error usage => .error usage
      | .ok draft => read draft more
    | .word value =>
      match draft.pending with
      | some none => read { draft with pending := some (some value) } more
      | _ => .error .unknownArgument

def finish (draft : RunDraft) : Except Usage RunArgs :=
  let given (s : Switch) : Bool := draft.switches.contains s
  if given .json && given .interactive then .error .conflict
  else
    .ok ⟨draft.root.getD ['.'], given .dryRun, given .diff, given .interactive, given .json,
      given .verbose⟩

end RunDraft

def readRun (args : List Text) : Except Usage RunArgs := do
  let draft ← RunDraft.initial.read args
  draft.finish

def settleName : Option Text → Except Usage (Option Kind)
  | none => .ok none
  | some name =>
    match Kind.ofName? (String.ofList name) with
    | some kind => .ok (some kind)
    | none => .error .badValue

def readRules (name : Option Text) : List Text → Except Usage (Option Kind)
  | [] => settleName name
  | arg :: more =>
    match Arg.ofText arg with
    | .stop =>
      match name, more with
      | _, [] => settleName name
      | none, [value] => settleName (some value)
      | _, _ => .error .unknownArgument
    | .long option value =>
      if option = "help".toList then
        match value, settleName name with
        | some _, _ => .error .surplusValue
        | none, .error usage => .error usage
        | none, .ok _ => .error .help
      else .error .unknownArgument
    | .short names =>
      if names.head? = some 'h' then
        match settleName name with
        | .error usage => .error usage
        | .ok _ => .error .help
      else .error .unknownArgument
    | .word value =>
      match name with
      | none => readRules (some value) more
      | some _ => .error .unknownArgument

def isCommand (word : Text) : Bool :=
  (Kind.ofName? (String.ofList word)).isSome || word = "rules".toList || word = "help".toList

def read : List Text → Except Usage Command
  | [] => .error .noCommand
  | arg :: more =>
    match Arg.ofText arg with
    | .stop =>
      match more with
      | [] => .error .noCommand
      | word :: _ => .error (if isCommand word then .unknownArgument else .unknownCommand)
    | .long name value =>
      if name = "help".toList then .error (if value.isSome then .surplusValue else .help)
      else if name = "version".toList then
        .error (if value.isSome then .surplusValue else .version)
      else .error .unknownArgument
    | .short names =>
      .error
        (match names.head? with
        | some 'h' => .help
        | some 'V' => .version
        | _ => .unknownArgument)
    | .word word =>
      match Kind.ofName? (String.ofList word) with
      | some kind => (readRun more).map (.run kind)
      | none =>
        if word = "rules".toList then (readRules none more).map .rules
        else if word = "help".toList then
          match more with
          | [] => .error .help
          | [name] => .error (if isCommand name then .help else .unknownCommand)
          | _ => .error .unknownCommand
        else .error .unknownCommand

end Recast.Cli
