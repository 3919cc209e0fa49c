import CiVariables.Failure
import CiVariables.Text.Surrogate

/-!
# Files by path

The files and directories that a run can see, by their paths from the working directory. A path is
followed part by part: every part but the last has to be a directory that is there, and `..` is the
directory that another is in. Where a path leads is a `Place`; two paths to the same file lead to
the same place.
-/

namespace CiVariables

namespace Path

/-- The parts of a path. Doubled slashes and single dots do not count. -/
def parts (path : String) : List String :=
  ((path.toList.splitOn '/').map String.ofList).filter fun p => p != "" && p != "."

/-- What stands before the parts of a path that starts at the root: two slashes are kept as they
are, any other number counts as one. -/
def root (path : String) : String :=
  match (path.toList.takeWhile (· == '/')).length with
  | 0 => ""
  | 2 => "//"
  | _ => "/"

/-- The path of some parts; the working directory if there are none. -/
def ofParts (root : String) (ps : List String) : String :=
  if root = "" ∧ ps.isEmpty then "." else root ++ CiVariables.Text.join "/" ps

/-- The path without parts that do not matter. -/
def normalize (path : String) : String := ofParts (root path) (parts path)

/-- The directory that a path is in. -/
def parent (path : String) : String := ofParts (root path) (parts path).dropLast

/-- The path of a name in a directory. -/
def inside (directory name : String) : String :=
  ofParts (root directory) (parts directory ++ [name])

/-- How many bytes a name takes. A half of a surrogate pair stands for a single byte. -/
def byteLength (name : String) : Nat :=
  name.toList.foldl (fun n c => n + if CiVariables.Text.isHalf c then 1 else c.utf8Size) 0

/-- How many bytes a part may take. -/
def partLimit : Nat := 255

/-- How many bytes a whole path may take. -/
def pathLimit : Nat := 4095

/-- The path can name a file at all: it has no zero character, and none of its halves of surrogate
pairs stands for anything but a byte. -/
def isUsable (path : String) : Bool :=
  path.toList.all fun c =>
    let n := CiVariables.Text.codeOf c
    n != 0 && (!CiVariables.Text.isHalf c || (0xDC80 ≤ n && n ≤ 0xDCFF))

end Path

/-- Where a file or directory is: below the working directory, which may itself be left first by
parts `..`, or below the root. -/
structure Place where
  isAbsolute : Bool := false
  parts : List String := []
  deriving DecidableEq, Inhabited

namespace Place

/-- The directory that a place is in. The root is in itself. -/
def up (p : Place) : Place :=
  match p.parts.getLast? with
  | none => if p.isAbsolute then p else { p with parts := [".."] }
  | some last =>
    if last = ".." then { p with parts := p.parts ++ [".."] }
    else { p with parts := p.parts.dropLast }

/-- The place of a part in a directory. -/
def enter (p : Place) (part : String) : Place :=
  if part = ".." then p.up else { p with parts := p.parts ++ [part] }

/-- Where a path starts. -/
def start (path : String) : Place := ⟨Path.root path != "", []⟩

/-- Where a path leads if all its parts are directories. -/
def ofPath (path : String) : Place := (Path.parts path).foldl enter (start path)

/-- One place is a directory that another is in, directly or not. -/
def contains (p q : Place) : Bool :=
  p.isAbsolute == q.isAbsolute && p.parts.length < q.parts.length &&
    q.parts.take p.parts.length == p.parts

end Place

/-- The files with their bytes, and the directories that hold none. A directory that holds a file is
there because of it. -/
structure Files where
  contents : List (Place × List UInt8) := []
  directories : List Place := []
  deriving Inhabited

/-- What is at a place. -/
inductive Found where
  | file (bytes : List UInt8)
  | directory
  | nothing
  deriving DecidableEq, Inhabited

/-- What stands in the way of a path. -/
inductive Obstacle where
  | missing
  /-- A part that has to be a directory is a file. -/
  | crossesFile
  | isDirectory
  /-- Something is there already. -/
  | taken
  | nameTooLong
  deriving DecidableEq, Inhabited

def Obstacle.failure (path : String) : Obstacle → Failure
  | missing => .noSuchFile path
  | crossesFile => .notDirectory path
  | isDirectory => .isDirectory path
  | taken => .fileExists path
  | nameTooLong => .nameTooLong path

namespace Files

/-- The files at some paths, and the directories that they make. -/
def ofList (files : List (String × List UInt8)) : Files :=
  { contents := files.map fun (path, bytes) => (Place.ofPath path, bytes) }

/-- The place is a directory. The working directory, those that it is in, and the root always
are. -/
def isDirectory (files : Files) (p : Place) : Bool :=
  p.parts.all (· == "..") || files.directories.contains p ||
    files.directories.any p.contains || files.contents.any fun (q, _) => p.contains q

/-- What is at a place, without following a path to it. -/
def look (files : Files) (p : Place) : Found :=
  match files.contents.lookup p with
  | some bytes => .file bytes
  | none => if files.isDirectory p then .directory else .nothing

/-- The place of a directory that parts lead to, from another. -/
def enter (files : Files) : Place → List String → Except Obstacle Place
  | p, [] => .ok p
  | p, part :: rest =>
    if Path.partLimit < Path.byteLength part then .error .nameTooLong
    else
      match files.look (p.enter part) with
      | .directory => files.enter (p.enter part) rest
      | .file _ => .error .crossesFile
      | .nothing => .error .missing

/-- The place that a path leads to. Nothing needs to be there yet. -/
def place (files : Files) (path : String) : Except Obstacle Place :=
  let ps := Path.parts path
  if Path.pathLimit < Path.byteLength path then .error .nameTooLong
  else
    match files.enter (Place.start path) ps.dropLast, ps.getLast? with
    | .error o, _ => .error o
    | .ok p, none => .ok p
    | .ok p, some last =>
      if Path.partLimit < Path.byteLength last then .error .nameTooLong else .ok (p.enter last)

/-- The bytes of a file, or why they cannot be read. -/
def read (files : Files) (path : String) : Except Failure (List UInt8) :=
  let failed (o : Obstacle) := Except.error (o.failure (Path.normalize path))
  match files.place path with
  | .error o => failed o
  | .ok p =>
    match files.look p with
    | .file bytes => .ok bytes
    | .directory => failed .isDirectory
    | .nothing => failed .missing

/-- The bytes of a file, if the path leads to one. -/
def get? (files : Files) (path : String) : Option (List UInt8) := (files.read path).toOption

/-- The path leads to a directory that is there. -/
def leadsToDirectory (files : Files) (path : String) : Bool :=
  match files.place path with
  | .ok p => files.isDirectory p
  | .error _ => false

/-- Makes a directory where there is nothing. -/
def makeDirectory (files : Files) (path : String) : Except Obstacle Files :=
  match files.place path with
  | .error o => .error o
  | .ok p =>
    match files.look p with
    | .nothing => .ok { files with directories := files.directories ++ [p] }
    | .file _ | .directory => .error .taken

/-- Makes the directory that parts lead to unless it is there, and first those that it is in if one
of them is missing. The last part comes first. -/
def makeDirectories (root : String) (files : Files) : List String → Except Failure Files
  | [] => .ok files
  | part :: before =>
    let path := Path.ofParts root (part :: before).reverse
    let unlessThere (files : Files) (o : Obstacle) : Except Failure Files :=
      if files.leadsToDirectory path then .ok files else .error (o.failure path)
    match files.makeDirectory path with
    | .ok files => .ok files
    | .error .missing =>
      match makeDirectories root files before with
      | .error failure => .error failure
      | .ok files =>
        match files.makeDirectory path with
        | .ok files => .ok files
        | .error o => unlessThere files o
    | .error o => unlessThere files o

/-- Makes the directories that a path goes through. -/
def makeParents (files : Files) (path : String) : Except Failure Files :=
  makeDirectories (Path.root path) files (Path.parts path).dropLast.reverse

/-- Writes a file. The directories that its path goes through are there. -/
def write (files : Files) (path : String) (bytes : List UInt8) : Except Failure Files :=
  let failed (o : Obstacle) := Except.error (o.failure (Path.normalize path))
  match files.place path with
  | .error o => failed o
  | .ok p =>
    match files.look p with
    | .directory => failed .isDirectory
    | .file _ | .nothing =>
      .ok { files with contents := files.contents.filter (fun (q, _) => q != p) ++ [(p, bytes)] }

end Files

/-- What a run can see of the world around it. -/
structure Surroundings where
  files : Files := {}
  env : List (String × String) := []
  deriving Inhabited

end CiVariables
