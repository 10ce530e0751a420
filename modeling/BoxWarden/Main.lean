import BoxWarden.CommandLine.Run

/-!
The application on a machine. The part of the tree that a request may look at is read in, the
request is carried out on that part, and what it has changed is written back. Nothing is started
from here: a command that a request needs counts as missing.
-/

namespace BoxWarden.Machine

/-- The environment of the process. -/
def environment : IO Environment := do
  return {
    home := (← IO.getEnv "HOME").getD "/"
    configHome := ← IO.getEnv "XDG_CONFIG_HOME"
    dataHome := ← IO.getEnv "XDG_DATA_HOME"
    stateHome := ← IO.getEnv "XDG_STATE_HOME"
    configFile := ← IO.getEnv "DISTROBOX_SECURE_CONFIG"
    image := ← IO.getEnv "DISTROBOX_SECURE_IMAGE"
    visual := ← IO.getEnv "VISUAL"
    editor := ← IO.getEnv "EDITOR"
    session := {
      display := ← IO.getEnv "DISPLAY"
      xauthority := ← IO.getEnv "XAUTHORITY"
      waylandDisplay := ← IO.getEnv "WAYLAND_DISPLAY"
      runtimeDir := ← IO.getEnv "XDG_RUNTIME_DIR" } }

/-- The path of a place. -/
def pathOf (l : Loc) : String := "/" ++ "/".intercalate l

/-- The host path that a request is about to expose. -/
def exposedPath? (env : Environment) : CommandLine.Request → Option Path
  | .grant _ (some kind) (some value) => do
    let path ← (← Kind.ofName? kind).hostPath? value
    (env.expand (Path.parse path)).toOption
  | _ => none

/-- The paths that an invocation may look at. -/
def pathsOf (env : Environment) (i : CommandLine.Invocation) : List Path :=
  [ (CommandLine.storeOf env i).toOption.map Store.path,
    env.stateDir.toOption.map (·.child logName),
    (Homes.dir env).toOption,
    exposedPath? env i.request ].filterMap id

/-- The places that a path leads through, from the top. -/
def placesOf (cwd : Loc) (p : Path) : List Loc :=
  (List.range (p.parts.length + 1)).flatMap fun k =>
    let l := DiskM.plainParts cwd { p with parts := p.parts.take k }
    (List.range (l.length + 1)).map l.take

/-- What stands at a place. Permission bits are those of a new node. -/
def nodeAt? (l : Loc) : IO (Option Node) := do
  try
    if ← (← IO.FS.realPath (pathOf l)).isDir then
      return some (.dir Disk.dirMode)
    return some (.file Disk.fileMode (← IO.FS.readBinFile (pathOf l)))
  catch _ => return none

/-- The places right below a place. -/
def placesBelow (l : Loc) : IO (List Loc) := do
  try
    let entries ← (← IO.FS.realPath (pathOf l)).readDir
    return entries.toList.map fun entry => l ++ [entry.fileName]
  catch _ => return []

/-- The part of the tree that an invocation may look at. -/
def diskFor (env : Environment) (i : CommandLine.Invocation) : IO Disk := do
  let cwd := (Path.parse (← IO.currentDir).toString).parts
  let places := (pathsOf env i).flatMap (placesOf cwd)
  let homes := (Homes.dir env).toOption.map (DiskM.plainParts cwd)
  let below ← match homes with
    | some l => placesBelow l
    | none => pure []
  (placesOf cwd ⟨.here, []⟩ ++ places ++ below).foldlM (fun d l => do
    match ← nodeAt? l with
    | some n => return d.put l n
    | none => return d) ⟨[], cwd⟩

/-- The rights that permission bits stand for. -/
def rights (mode : Nat) : IO.FileRight :=
  { user := access 6, group := access 3, other := access 0 }
where
  /-- Three bits from one of them up. -/
  access (k : Nat) : IO.AccessRight :=
    { read := mode.testBit (k + 2), write := mode.testBit (k + 1), execution := mode.testBit k }

/-- Writes what has changed back. A node that was there keeps its rights. -/
def writeBack (before after : Disk) : IO Unit :=
  after.nodes.forM fun (l, n) => do
    let old := before.get? l
    unless old = some n do
      match n with
      | .dir _ => IO.FS.createDirAll (pathOf l)
      | .file _ content => IO.FS.writeBinFile (pathOf l) content
      if old.isNone then IO.setAccessRights (pathOf l) (rights n.mode)

/-- Prints what a run has printed, in order. -/
def printAll (events : List Event) : IO Unit :=
  events.forM fun
    | .printed .out text => IO.print text
    | .printed .err text => IO.eprint text
    | _ => pure ()

/-- Runs the application and gives the exit code. -/
def run (args : List String) : IO UInt32 := do
  let env ← environment
  let disk ← match CommandLine.parse args with
    | .invocation i => diskFor env i
    | _ => pure ⟨[], []⟩
  let missing : Reply := .refused .notFound
  let start : World := {
    disk := disk
    -- No request starts more than four commands.
    replies := List.replicate 4 missing
    outIsTerminal := ← (← IO.getStdout).isTty
    errIsTerminal := ← (← IO.getStderr).isTty }
  let (result, world) := (CommandLine.run env args).run.run start
  writeBack disk world.disk
  printAll world.events
  match result with
  | .ok (.returned code) | .ok (.atOnce code) => return (code % 256).toNat.toUInt32
  | .error fault => do
    IO.eprintln fault.message
    return 1

end BoxWarden.Machine

def main (args : List String) : IO UInt32 := BoxWarden.Machine.run args
