import Recast.Cli

/-!
The program on real files: the files that a command is about are loaded into a tree, the command is
run on the tree, and what it has changed there is written back.
-/

namespace Recast.Main

def probe (path : String) : IO (Option Entry) := do
  try
    let bytes ← IO.FS.readBinFile path
    return some (.file (.ofBytes bytes))
  catch _ =>
    try
      let resolved ← IO.FS.realPath path
      return if ← resolved.isDir then some .dir else none
    catch _ =>
      return none

def load (tree : Tree) (path : Text) : IO Tree := do
  let mut tree := tree
  let mut place := Place.startOf path
  for name in Path.steps path do
    place := place.follow name
    unless place.names.isEmpty do
      if let some entry ← probe (String.ofList place.toPath) then
        tree := tree.set place entry
  return tree

def store (before after : Tree) : IO Unit := do
  for (place, entry) in after.entries do
    if before.entry? place ≠ some entry then
      match entry with
      | .file (.text text) => IO.FS.writeFile (String.ofList place.toPath) (String.ofList text)
      | _ => pure ()

/-- Why a file that is there cannot be written, found out by opening it. -/
def refusal? (path : String) : IO (Option FileFault) := do
  try
    let _ ← IO.FS.Handle.mk path .readWrite
    return none
  catch
    | .permissionDenied .. => return some .denied
    | .resourceExhausted .. => return some .noSpace
    | _ => return some .broken

def probeDisk (tree : Tree) : IO Disk := do
  let mut refused : List (Place × FileFault) := []
  for (place, entry) in tree.entries do
    if entry ≠ .dir then
      if let some cause ← refusal? (String.ofList place.toPath) then
        refused := (place, cause) :: refused
  return fun place _ => refused.lookup place

def loadFor (args : List Text) : IO Tree :=
  match Cli.read args with
  | .ok command => (Cli.pathsOf command).foldlM load Tree.empty
  | .error _ => return Tree.empty

end Recast.Main

def main (args : List String) : IO UInt32 := do
  let args := args.map String.toList
  let color := Recast.Cli.wantsColor (← IO.getEnv "CLICOLOR_FORCE") (← IO.getEnv "NO_COLOR")
    (← IO.getEnv "CLICOLOR") (← (← IO.getStdout).isTty)
  let tree ← Recast.Main.loadFor args
  let disk ← Recast.Main.probeDisk tree
  let (output, after) := Recast.Cli.execute color args disk tree
  Recast.Main.store tree after
  IO.print (String.ofList output.stdout)
  IO.eprint (String.ofList output.stderr)
  return UInt32.ofNat output.exit
