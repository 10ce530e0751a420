import BoxWarden.CommandLine.Request
import BoxWarden.Completion
import BoxWarden.Editor

/-!
Running the application: a command line is read, the log is opened, and the request is carried out.
A refused grant or a failed command ends the run with a message and an exit code.
-/

namespace BoxWarden.CommandLine

open Session Terminal

/-- Where these entries of the log come from. -/
def source : String := "cli"

/-- How a run ends: with the code of the request, or because of what the command line shows or gets
wrong. -/
inductive Ending
  | returned (code : Int)
  | atOnce (code : Int)
deriving DecidableEq, Repr

def Request.name : Request → String
  | .help => "help"
  | .create .. => "create"
  | .recreate .. => "recreate"
  | .grant .. => "grant"
  | .revoke .. => "revoke"
  | .list .. => "list"
  | .edit .. => "edit"
  | .completion => "completion"

/-- Opens the log, and says so in it. -/
def openLog (env : Environment) (i : Invocation) : Session Unit := do
  let dir ← require env.stateDir
  onDisk (DiskM.makeDirs dir 0o777 true)
  let file := dir.child logName
  onDisk (DiskM.change (·.append file ByteArray.empty))
  modify fun w => { w with echo := i.verbose }
  log .debug source (appName ++ " " ++ appVersion ++ ": " ++ i.request.name ++ " (log: "
    ++ file.text ++ ")")

/-- The hint after a change of grants. -/
def applyHint (name : String) : String := "Run '" ++ appName ++ " recreate " ++ name ++ "' to apply"

/-- The problem with a host path that is about to be granted, if there is one. -/
def pathProblem (env : Environment) (path : String) : Session (Option String) := do
  let p ← require (env.expand (Path.parse path))
  if !p.isAbsolute then pure (some (path ++ " is not an absolute path"))
  else if ← ask (·.holds p) then pure none
  else pure (some (path ++ " does not exist on the host"))

def runCreate (env : Environment) (store : Store) (dryRun : Bool) (name : String)
    (image : Option String) : Session Int := do
  let _ ← require (checkName name)
  let _ ← store.ensureExists
  let plan ← Plan.make env store name ((nonEmpty? image).getD env.defaultImage) none
  plan.execute env dryRun
  unless dryRun do
    say .info ("Container '" ++ name ++ "' created. Enter it with: distrobox enter " ++ name)
  pure 0

def runRecreate (env : Environment) (store : Store) (dryRun : Bool) (name : String)
    (image : Option String) : Session Int := do
  let _ ← require (checkName name)
  let _ ← store.ensureExists
  let _ ← Plan.recreate env store name image env.defaultImage none dryRun
  unless dryRun do say .info ("Container '" ++ name ++ "' recreated with current permissions")
  pure 0

/-- Grants, and warns of a host path that is not there; the grant stands all the same. -/
def runGrant (env : Environment) (store : Store) (name : String) (kind value : Option String) :
    Session Int := do
  let _ ← store.ensureExists
  let r ← match kind, value with
    | none, _ => throw .noKind
    | some kind, none => do
      let _ ← require (Kind.parse kind)
      let _ ← require (checkName name)
      throw .noValue
    | some kind, some value => store.grant name kind value
  say .info ("Granted " ++ r.kind.name ++ "=" ++ r.value ++ " to " ++ r.container)
  let problem ← match r.kind.hostPath? r.value with
    | some path => if path = "" then pure none else pathProblem env path
    | none => pure none
  if let some p := problem then say .warn (p ++ " (grant recorded anyway)")
  say .info (applyHint r.container)
  pure 0

def runRevoke (store : Store) (name : String) (kind : Option String) : Session Int := do
  let some kind := kind | throw .noKind
  let count ← store.revoke name kind
  if count ≠ 0 then
    say .info ("Revoked " ++ toString count ++ " " ++ kind ++ " grant(s) from " ++ name)
    say .info (applyHint name)
  else say .warn (name ++ " has no " ++ kind ++ " grants")
  pure 0

/-- The containers that have grants, and then those that have only a home. -/
def overview (env : Environment) (store : Store) : Session (List String) := do
  let granted ← store.containers
  return (granted ++ (← Homes.list env)).eraseDups

def runList (env : Environment) (store : Store) (name : Option String) (namesOnly : Bool) :
    Session Int := do
  match name with
  | none => do
    let names ← overview env store
    if namesOnly then names.forM printLine
    else if names = [] then printLine "No containers configured."
    else
      printLine "Containers:"
      names.forM fun n => do
        printLine ("  " ++ n ++ " (" ++ toString (← store.list n).length ++ " grant(s))")
  | some name => do
    let records ← store.list name
    printLine ("Permissions for " ++ name ++ ":")
    if records = [] then printLine "  (none - maximum isolation)"
    records.forM fun r => printLine ("  " ++ r.kind.name ++ ": " ++ r.value)
    printLine ""
    let plan ← Plan.make env store name env.defaultImage none
    printLine plan.compiled.summary
  pure 0

/-- Opens the file in a text editor, or its grants in the editor for grants. -/
def runEdit (env : Environment) (store : Store) (name : Option String) (raw : Bool) :
    Session Int := do
  let _ ← store.ensureExists
  if raw then
    let words ← require ((Shell.split env.editorLine).mapError Fault.split)
    match ← start (words ++ [store.path.text]) false with
    | .ended code _ _ => pure code
    | .refused e => throw (.disk e)
  else
    if let some n := name then
      let _ ← require (checkName n)
    let input ← Editor.input env store name none none
    modify (·.emit (.edited input))
    pure 0

/-- Carries out a request. -/
def carryOut (env : Environment) (store : Store) (i : Invocation) : Session Int :=
  match i.request with
  | .help => pure 0
  | .create name image => runCreate env store i.dryRun name image
  | .recreate name image => runRecreate env store i.dryRun name image
  | .grant name kind value => runGrant env store name kind value
  | .revoke name kind => runRevoke store name kind
  | .list name namesOnly => runList env store name namesOnly
  | .edit name raw => runEdit env store name raw
  | .completion => do
    print .out (Completion.script appName)
    pure 0

/-- The exit code for a failed command: its own if it is positive. -/
def failureCode (f : ToolFailure) : Int :=
  match f.code with
  | some c => if 0 < c then c else 1
  | none => 1

/-- What becomes of a failure: a refusal or a failed command is reported and gives an exit code, and
anything else ends the run. -/
def report (f : Fault) : Session Int :=
  if f.isRefusal then do
    say .error f.message
    pure 1
  else match f with
    | .tool failure => do
      log .error source f.message
      printErrorBox f.message [
        "The container may be partially created.",
        "Clean up and retry with: " ++ appName ++ " recreate <name>"]
      pure (failureCode failure)
    | _ => throw f

/-- The file of grants that an invocation works on. -/
def storeOf (env : Environment) (i : Invocation) : Except Fault Store :=
  match i.config with
  | some file => return ⟨← env.expand (Path.parse file)⟩
  | none => return ⟨← env.configPath⟩

/-- Runs the application. -/
def run (env : Environment) (args : List String) : Session Ending :=
  match parse args with
  | .shown text => do
    print .out text
    pure (.atOnce 0)
  | .refused text => do
    print .err text
    pure (.atOnce 2)
  | .invocation i =>
    if i.request = .help then do
      print .out helpText
      pure (.returned 0)
    else do
      openLog env i
      let store ← require (storeOf env i)
      return .returned (← tryCatch (carryOut env store i) report)

end BoxWarden.CommandLine
