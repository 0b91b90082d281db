import Recast.Fault
import Recast.Path

/-!
File trees as values. Reading and writing follow a path name by name, and say why they fail the
way a file system does: a path that cannot be a path before anything else, then at each name a
missing directory, a file where a directory is needed and a name that is too long, and last a
directory where a file is needed.
-/

namespace Recast

inductive Content where
  | text (text : Text)
  | binary (bytes : List UInt8)
deriving DecidableEq, Repr

namespace Content

def ofBytes (bytes : ByteArray) : Content :=
  match String.fromUTF8? bytes with
  | some decoded => .text decoded.toList
  | none => .binary bytes.toList

end Content

inductive Entry where
  | file (content : Content)
  | dir
deriving DecidableEq, Repr

/-- The files and directories at their places. A place is listed at most once. -/
structure Tree where
  entries : List (Place × Entry)
deriving DecidableEq, Repr

/-- The disk below a tree: why it refuses to take a text at a place, if it does. It refuses before the
file is opened, so what is there stays; a write that breaks off in the middle is not modelled. -/
abbrev Disk := Place → Text → Option FileFault

namespace Disk

def sound : Disk := fun _ _ => none

end Disk

namespace Tree

def empty : Tree := ⟨[]⟩

/-- What is at a place. A place with no name on the way to it is a directory. -/
def entry? (tree : Tree) (place : Place) : Option Entry :=
  if place.names.isEmpty then some .dir else tree.entries.lookup place

def set (tree : Tree) (place : Place) (entry : Entry) : Tree :=
  if (tree.entries.lookup place).isSome then
    ⟨tree.entries.map fun e => if e.1 = place then (place, entry) else e⟩
  else ⟨tree.entries ++ [(place, entry)]⟩

def maxName : Nat := 255

def maxPath : Nat := 4095

def pathFault? (path : Text) : Option FileFault :=
  if path.contains '\x00' then some .zeroInPath
  else if path.isEmpty then some .notFound
  else if maxPath < Text.byteSize path then some .nameTooLong
  else none

def walk (tree : Tree) (place : Place) : List Text → Except FileFault Place
  | [] => .ok place
  | name :: more =>
    match tree.entry? place with
    | none => .error .notFound
    | some (.file _) => .error .notDirectory
    | some .dir =>
      if maxName < Text.byteSize name then .error .nameTooLong
      else tree.walk (place.follow name) more

def stepsOf (path : Text) : List Text :=
  if Path.endsInSlash path then Path.steps path ++ [['.']] else Path.steps path

def find (tree : Tree) (path : Text) : Except FileFault (Place × Entry) :=
  match pathFault? path with
  | some cause => .error cause
  | none =>
    match tree.walk (Place.startOf path) (stepsOf path) with
    | .error cause => .error cause
    | .ok place =>
      match tree.entry? place with
      | none => .error .notFound
      | some entry => .ok (place, entry)

def isDir (tree : Tree) (path : Text) : Bool :=
  match tree.find path with
  | .ok (_, .dir) => true
  | _ => false

def isFile (tree : Tree) (path : Text) : Bool :=
  match tree.find path with
  | .ok (_, .file _) => true
  | _ => false

def has (tree : Tree) (path : Text) : Bool :=
  match tree.find path with
  | .ok _ => true
  | .error _ => false

def read (tree : Tree) (path : Text) : Except FileFault Text :=
  match tree.find path with
  | .error cause => .error cause
  | .ok (_, .dir) => .error .isDirectory
  | .ok (_, .file (.binary _)) => .error .notText
  | .ok (_, .file (.text text)) => .ok text

/-- The place where a write to a path would go. The directory must be there; a path that ends in a
slash or in dots names a directory and cannot be written. -/
def writePlace (tree : Tree) (path : Text) : Except FileFault Place :=
  match pathFault? path with
  | some cause => .error cause
  | none =>
    let steps := Path.steps path
    match tree.walk (Place.startOf path) steps.dropLast with
    | .error cause => .error cause
    | .ok dir =>
      match tree.entry? dir with
      | none => .error .notFound
      | some (.file _) => .error .notDirectory
      | some .dir =>
        match steps.getLast? with
        | none => .error .isDirectory
        | some name =>
          if Path.endsInSlash path || Place.isDots name then .error .isDirectory
          else if maxName < Text.byteSize name then .error .nameTooLong
          else
            match tree.entry? (dir.child name) with
            | some .dir => .error .isDirectory
            | some (.file _) => .ok (dir.child name)
            | none => .ok (dir.child name)

/-- Puts a text where the path leads, over a file that may be there, unless the disk refuses it. -/
def write (disk : Disk) (tree : Tree) (path : Text) (text : Text) : Except FileFault Tree :=
  match tree.writePlace path with
  | .error cause => .error cause
  | .ok place =>
    match disk place text with
    | some cause => .error cause
    | none => .ok (tree.set place (.file (.text text)))

def erase (tree : Tree) (place : Place) : Tree :=
  ⟨tree.entries.filter fun e => !e.1.under place⟩

def put (tree : Tree) (place : Place) (entry : Entry) : Tree :=
  let above := (List.range place.names.length).map fun n =>
    Place.mk place.origin (place.names.take n)
  let withDirs := above.foldl
    (fun tree dir => if (tree.entry? dir).isSome then tree else tree.set dir .dir) tree
  withDirs.set place entry

end Tree

end Recast
