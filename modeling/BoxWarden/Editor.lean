import BoxWarden.Markup
import BoxWarden.Plan

/-!
The editor for grants as a machine: what it shows, and what each action of the user does. What it
shows of the file is renewed after every action that is accepted, and only then.
-/

namespace BoxWarden

/-- The state of the editor. -/
structure Editor where
  store : Store
  host : Host
  image : String
  /-- The container that is named. An empty name selects none. -/
  container : Option String
  /-- The names to pick from. -/
  names : List String := []
  /-- The grants of the selected container. -/
  rows : List Record := []
  /-- Whether a note says that there are no grants. -/
  notice : Bool := false
  title : String := ""
  plan : Option Plan := none
  preview : String := ""
  status : String := ""
  statusIsError : Bool := false
  /-- The texts in the two input fields, and the kind that is chosen. -/
  containerField : String
  valueField : String := ""
  kind : Kind := .homeFolder

namespace Editor

open Session

/-- Where these entries of the log come from. -/
def source : String := "app"

/-- An action of the user. -/
inductive Action
  | submitContainer (text : String)
  | grant (kind : Option Kind) (value : String)
  | revoke (row : Nat)
  | pick (index : Nat)
deriving DecidableEq, Repr

/-- The container that is selected. -/
def selected? (e : Editor) : Option String := nonEmpty? e.container

/-- The names to pick from: the containers that have grants, and the selected one. -/
def pickable (names : List String) : Option String → List String
  | some c => if c ∈ names then names else names ++ [c]
  | none => names

/-- Shows a message. -/
def say (e : Editor) (message : String) (isError : Bool) : Editor :=
  { e with status := message, statusIsError := isError }

/-- Renews what is shown of the file. -/
def refresh (env : Environment) (e : Editor) : Session Editor := do
  let names := pickable (← e.store.containers) e.selected?
  match e.selected? with
  | none =>
    pure { e with
      names := names, rows := [], notice := false, title := "No container selected"
      plan := none, preview := "" }
  | some c => do
    let rows ← e.store.list c
    let plan ← Plan.make env e.store c e.image (some e.host)
    pure { e with
      names := names, rows := rows, notice := rows = []
      title := c ++ ": " ++ toString rows.length ++ " record(s)"
      plan := some plan
      preview := BoxWarden.preview plan.command plan.compiled.colouredSummary }

/-- What an editor is opened on. Without a container it is the first one that has grants. -/
def input (env : Environment) (store : Store) (container : Option String) (host : Option Host)
    (image : Option String) : Session EditorInput := do
  let known ← store.containers
  let container := (nonEmpty? container).orElse fun _ => known.head?
  pure ⟨store.path, container, (nonEmpty? image).getD env.defaultImage, host.getD env.host⟩

/-- Opens the editor. -/
def mount (env : Environment) (i : EditorInput) : Session Editor :=
  refresh env
    { store := ⟨i.config⟩, host := i.host, image := i.image, container := i.container
      containerField := i.container.getD "" }

/-- Selects a container. -/
def select (env : Environment) (e : Editor) (name : String) : Session Editor :=
  refresh env { e with container := some name, containerField := name }

/-- A renewal that runs on its own: what goes wrong in it is reported as such. -/
def inBackground (m : Session Editor) : Session Editor := tryCatch m fun f => throw (.background f)

/-- Grants what is chosen and typed. -/
def submitGrant (env : Environment) (e : Editor) : Session Editor :=
  match e.selected? with
  | none => pure (e.say "Enter a container name first" true)
  | some c => do
    let value := Text.trim e.valueField
    if value = "" then pure (e.say "Enter a value to grant" true)
    else
      let granted : Except Fault Record ← tryCatch (Except.ok <$> e.store.grant c e.kind.name value)
        fun f => if f.isRefusal then pure (.error f) else throw f
      match granted with
      | .error f => do
        log .info source ("Grant rejected: " ++ f.message)
        pure (e.say f.message true)
      | .ok r => refresh env ({ e with valueField := "" }.say ("Granted " ++ r.line) false)

/-- What an action does. An action on a row or a name that is not there does nothing. -/
def act (env : Environment) (e : Editor) : Action → Session Editor
  | .submitContainer text => do
    let e := { e with containerField := text }
    let name := Text.trim text
    match checkName name with
    | .error f => pure (e.say f.message true)
    | .ok name => return (← select env e name).say ("Editing " ++ name) false
  | .grant kind value => submitGrant env { e with kind := kind.getD e.kind, valueField := value }
  | .revoke row =>
    match e.rows[row]? with
    | none => pure e
    | some r => do
      let count ← e.store.revoke r.container r.kind.name
      inBackground (refresh env (e.say
        ("Revoked " ++ toString count ++ " " ++ r.kind.name ++ " record(s) from " ++ r.container)
        false))
  | .pick index =>
    match e.names[index]? with
    | none => pure e
    | some name => inBackground (select env e name)

end Editor

end BoxWarden
