import BoxWarden.Disk.Basic

/-!
Finding the place that a path names, and asking what stands there. All questions go through
`Disk.locate`, so that a path means the same place to every operation.
-/

namespace BoxWarden

/-- Why an operation on the tree is refused. -/
inductive DiskError
  | notFound
  | alreadyThere
  | isDirectory
  | notDirectory
  | denied
  | nameTooLong
  | busy
  | nulInPath
  | notText
deriving DecidableEq, Repr

/-- What a permission bit allows. -/
inductive Access
  | read
  | write
  | search
deriving DecidableEq, Repr

/-- The bit that counts for the owner. -/
def Access.ownerBit : Access → Nat
  | .read => 8
  | .write => 7
  | .search => 6

/-- Whether a mode allows an access at a place. All belongs to the user who asks, but the top of the
tree to somebody else. -/
def Access.allowed (a : Access) (l : Loc) (mode : Nat) : Bool :=
  mode.testBit (if l = [] then a.ownerBit - 6 else a.ownerBit)

namespace Disk

/-- The longest name of a node and the longest path, in bytes. -/
def maxName : Nat := 255
def maxPath : Nat := 4095

/-- Follows names from a place. Each place on the way has to be a directory that may be searched;
what is at the end may be missing. -/
def walk (d : Disk) (here : Loc) : List String → Except DiskError Loc
  | [] => .ok here
  | name :: rest =>
    match d.get? here with
    | none => .error .notFound
    | some (.file ..) => .error .notDirectory
    | some (.dir mode) =>
      if !Access.search.allowed here mode then .error .denied
      else if name = ".." then d.walk here.dropLast rest
      else if name.utf8ByteSize > maxName then .error .nameTooLong
      else d.walk (here ++ [name]) rest

/-- The place that a path names. -/
def locate (d : Disk) (p : Path) : Except DiskError Loc :=
  if p.hasNul then .error .nulInPath
  else if p.text.utf8ByteSize > maxPath then .error .nameTooLong
  else d.walk (if p.isAbsolute then [] else d.cwd) p.parts

/-- What a path names. -/
def stat (d : Disk) (p : Path) : Except DiskError Node := do
  let l ← d.locate p
  match d.get? l with
  | some n => .ok n
  | none => .error .notFound

/-- Whether a path names something. A place that is missing, below a file or named by an impossible
path is no error. -/
def holds (d : Disk) (p : Path) : Except DiskError Bool :=
  match d.stat p with
  | .ok _ => .ok true
  | .error .notFound | .error .notDirectory | .error .nulInPath => .ok false
  | .error e => .error e

/-- Whether a path names a directory. -/
def holdsDir (d : Disk) (p : Path) : Except DiskError Bool :=
  match d.stat p with
  | .ok n => .ok n.isDir
  | .error .notFound | .error .notDirectory | .error .nulInPath => .ok false
  | .error e => .error e

/-- The content of a file. -/
def read (d : Disk) (p : Path) : Except DiskError ByteArray := do
  let l ← d.locate p
  match d.get? l with
  | none => .error .notFound
  | some (.dir m) => .error (if Access.read.allowed l m then .isDirectory else .denied)
  | some (.file m content) => if Access.read.allowed l m then .ok content else .error .denied

/-- The content of a file as text. -/
def readText (d : Disk) (p : Path) : Except DiskError String := do
  let content ← d.read p
  match String.fromUTF8? content with
  | some s => .ok s
  | none => .error .notText

/-- The names in a directory. -/
def list (d : Disk) (p : Path) : Except DiskError (List String) := do
  let l ← d.locate p
  match d.get? l with
  | none => .error .notFound
  | some (.file ..) => .error .notDirectory
  | some (.dir m) =>
    if Access.read.allowed l m then
      .ok (d.nodes.filterMap fun e => if e.1.dropLast = l then e.1.getLast? else none)
    else .error .denied

end Disk

end BoxWarden
