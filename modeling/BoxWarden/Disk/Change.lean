import BoxWarden.Disk.Access

/-!
Changes of the tree. A single step either changes the tree or is refused and changes nothing; a
longer operation runs in `DiskM`, which keeps what its steps have done when a later one is refused.
-/

namespace BoxWarden

/-- An operation of several steps on a tree. -/
abbrev DiskM (α : Type) := ExceptT DiskError (StateM Disk) α

namespace Disk

/-- The permission bits that a new node keeps of those asked for: nobody but the owner may write. -/
def newMode (mode : Nat) : Nat := mode &&& 0o7755

/-- The mode of a directory, or of a file, when none is asked for. -/
def dirMode : Nat := newMode 0o777
def fileMode : Nat := newMode 0o666

/-- A path whose last part is a name, not `.`, `..` or a root. -/
def endsInName (p : Path) : Bool :=
  match p.parts.getLast? with
  | some part => part ≠ ".."
  | none => false

/-- Whether nodes may be added to, and taken from, the directory of a place. -/
def checkDirOf (d : Disk) (l : Loc) : Except DiskError Unit :=
  match d.get? l.dropLast with
  | none => .error .notFound
  | some (.file ..) => .error .notDirectory
  | some (.dir m) => if Access.write.allowed l.dropLast m then .ok () else .error .denied

/-- A new node where none is. -/
def create (d : Disk) (p : Path) (n : Node) : Except DiskError Disk := do
  let l ← d.locate p
  match d.get? l with
  | some _ => .error .alreadyThere
  | none => do d.checkDirOf l; .ok (d.put l n)

/-- A new directory. -/
def makeDir (d : Disk) (p : Path) (mode : Nat) : Except DiskError Disk :=
  d.create p (.dir (newMode mode))

/-- Adds to the end of a file, which is made if it is missing. -/
def append (d : Disk) (p : Path) (bytes : ByteArray) : Except DiskError Disk := do
  let l ← d.locate p
  match d.get? l with
  | some (.dir _) => .error .isDirectory
  | some (.file m content) =>
    if Access.write.allowed l m then .ok (d.put l (.file m (content ++ bytes))) else .error .denied
  | none => do d.checkDirOf l; .ok (d.put l (.file fileMode bytes))

/-- Moves the file at a place to a path, over a file that is there. -/
def move (d : Disk) (source : Loc) (p : Path) : Except DiskError Disk := do
  let l ← d.locate p
  if !endsInName p then .error .busy
  d.checkDirOf l
  match d.get? l, d.get? source with
  | some (.dir _), _ => .error .isDirectory
  | _, none => .error .notFound
  | _, some n => .ok ((d.remove source).put l n)

end Disk

namespace DiskM

/-- A question as a step. -/
def ask (f : Disk → Except DiskError α) : DiskM α := do
  match f (← get) with
  | .ok a => pure a
  | .error e => throw e

/-- A change as a step. -/
def change (f : Disk → Except DiskError Disk) : DiskM Unit := do
  match f (← get) with
  | .ok d => set d
  | .error e => throw e

/-- A new directory, which may be there already if `existing` says so. -/
def makeDirHere (p : Path) (mode : Nat) (existing : Bool) : DiskM Unit := do
  match (← get).makeDir p mode with
  | .ok d => set d
  | .error e =>
    unless existing && (← ask (·.holdsDir p)) do throw e

/-- A new directory with the parents it lacks; the path is given from its last part up. -/
def makeDirsUp (root : Root) (mode : Nat) (existing : Bool) : List String → DiskM Unit
  | [] => makeDirHere ⟨root, []⟩ mode existing
  | part :: up => do
    let p : Path := ⟨root, (part :: up).reverse⟩
    match (← get).makeDir p mode with
    | .ok d => set d
    | .error .notFound => do
      makeDirsUp root 0o777 true up
      makeDirHere p mode existing
    | .error e => unless existing && (← ask (·.holdsDir p)) do throw e

/-- A new directory with the parents it lacks. -/
def makeDirs (p : Path) (mode : Nat) (existing : Bool) : DiskM Unit :=
  makeDirsUp p.root mode existing p.parts.reverse

/-- A new file with its mode from the start. -/
def writeNew (p : Path) (text : String) (mode : Nat) : DiskM Unit :=
  change (·.create p (.file (Disk.newMode mode) text.toUTF8))

/-- Adds a line to a file. A last line without its newline is ended first, so that two lines never
become one. -/
def appendLine (p : Path) (line : String) : DiskM Unit := do
  let mut gap := ""
  if ← ask (·.holds p) then
    let occupied ← ask fun d => do
      match ← d.stat p with
      | .dir _ => .ok true
      | .file _ content => .ok (content.size ≠ 0)
    if occupied then
      let content ← ask (·.read p)
      if content.data.back? ≠ some 10 then gap := "\n"
  change (·.append p (gap ++ line ++ "\n").toUTF8)

/-- The name of a temporary file beside a file. -/
def tempName (name : String) (k : Nat) : String :=
  let digits := Nat.toDigits 10 k
  "." ++ name ++ "." ++ String.ofList (List.replicate (8 - digits.length) '0' ++ digits) ++ ".tmp"

/-- The parts of a path from the top, with each `..` taken as one step back whatever is there. -/
def plainParts (cwd : Loc) (p : Path) : List String :=
  p.parts.foldl (fun l part => if part = ".." then l.dropLast else l ++ [part])
    (if p.isAbsolute then [] else cwd)

/-- A new empty file beside a path, under a name that nothing has. -/
def makeTemp (p : Path) : DiskM Loc := do
  let d ← get
  let dir := plainParts d.cwd p.parent
  let fresh := (List.range (d.nodes.length + 1)).find? fun k =>
    (d.get? (dir ++ [tempName p.name k])).isNone
  match fresh with
  | none => throw .alreadyThere
  | some k =>
    let temp := dir ++ [tempName p.name k]
    change (·.create ⟨.slash, temp⟩ (.file 0o600 ByteArray.empty))
    pure temp

/-- Gives a file a new content in one step, by moving a finished file over it. The file keeps its
permission bits. If the move is refused the finished file is removed. -/
def replace (p : Path) (text : String) : DiskM Unit := do
  let mode ← if ← ask (·.holds p) then do
      let n ← ask (·.stat p)
      pure (n.mode &&& 0o777)
    else pure 0o644
  let temp ← makeTemp p
  modify (·.put temp (.file mode text.toUTF8))
  match (← get).move temp p with
  | .ok d => set d
  | .error e => do
    modify (·.remove temp)
    throw e

end DiskM

end BoxWarden
