import Recast.Text

/-!
Paths as they are written, and the places they lead to. A path keeps its spelling for reports; a
place is where it leads once dots are followed.
-/

namespace Recast

namespace Path

/-- A path seen from a directory. An absolute path stands on its own; otherwise one slash divides
the two, also before an empty path. -/
def join (dir path : Text) : Text :=
  if path.head? = some '/' then path
  else if dir.isEmpty || dir.getLast? = some '/' then dir ++ path
  else dir ++ '/' :: path

def steps : Text → List Text
  | [] => []
  | c :: rest =>
    if c = '/' then steps rest
    else
      match rest with
      | [] => [[c]]
      | next :: _ =>
        if next = '/' then [c] :: steps rest
        else
          match steps rest with
          | [] => [[c]]
          | name :: more => (c :: name) :: more

def isAbsolute (path : Text) : Bool := path.head? = some '/'

/-- The parts that tell paths apart: repeated slashes, a slash at the end and dots that stay in
place make no difference. Only a dot at the very beginning counts. -/
def parts (path : Text) : List Text :=
  match steps path with
  | [] => []
  | name :: more =>
    if isAbsolute path then (name :: more).filter (· ≠ ['.'])
    else name :: more.filter (· ≠ ['.'])

/-- Whether two paths are written the same up to such differences. -/
def same (path path' : Text) : Bool :=
  isAbsolute path = isAbsolute path' && parts path = parts path'

/-- A path that can only name a directory. -/
def endsInSlash (path : Text) : Bool := path.getLast? = some '/'

end Path

/-- Where names are counted from: the root of all files, or so many directories above the one
worked in. -/
inductive Origin where
  | top
  | above (levels : Nat)
deriving DecidableEq, Repr

structure Place where
  origin : Origin
  names : List Text
deriving DecidableEq, Repr

namespace Place

def here : Place := ⟨.above 0, []⟩

def startOf (path : Text) : Place := if Path.isAbsolute path then ⟨.top, []⟩ else here

def child (place : Place) (name : Text) : Place := ⟨place.origin, place.names ++ [name]⟩

def parent (place : Place) : Place :=
  if place.names.isEmpty then
    match place.origin with
    | .top => place
    | .above levels => ⟨.above (levels + 1), []⟩
  else ⟨place.origin, place.names.dropLast⟩

def isDots (name : Text) : Bool := name = ['.'] || name = ['.', '.']

def follow (place : Place) (name : Text) : Place :=
  if name = ['.'] then place
  else if name = ['.', '.'] then place.parent
  else place.child name

def toPath (place : Place) : Text :=
  let names := ['/'].intercalate place.names
  match place.origin with
  | .top => '/' :: names
  | .above levels => (List.replicate levels "../".toList).flatten ++ names

def under (place dir : Place) : Bool :=
  place.origin = dir.origin && dir.names.isPrefixOf place.names

end Place

end Recast
