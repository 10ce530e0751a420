import BoxWarden.Grant.Record
import BoxWarden.Session

/-!
The file of grants: a line for each, in the order in which they were made. Granting adds a line;
revoking writes the file anew without the lines it takes back. Lines that say nothing, or nothing
that makes sense, stay where they are.
-/

namespace BoxWarden

/-- The file of grants. -/
structure Store where
  path : Path
deriving DecidableEq, Repr

namespace Store

open Session

/-- Where these entries of the log come from. -/
def source : String := "store"

/-- The comment at the top of a new file. -/
def heading : String :=
  String.join ([
    "# distrobox-secure permissions",
    "#",
    "# One grant per line: container:kind:value",
    "# Containers start fully isolated; each line opts into one capability.",
    "#",
    "# Examples:",
    "#   dev:home_folder:/home/me/projects",
    "#   dev:mount:/srv/data:/data",
    "#   dev:network:host",
    "#   dev:gpu:enable",
    "#   dev:unshare_ipc:false"].map (· ++ "\n"))

/-- The lines of a text with their newlines. -/
def textLines (text : String) : List String := (Text.lines text.toList).map String.ofList

/-- The grant on a line, if there is one. -/
def grantOn? (line : String) : Option Record :=
  match Record.parse line with
  | .ok r => r
  | .error _ => none

/-- The grants in a text. -/
def grantsIn (text : String) : List Record := (textLines text).filterMap grantOn?

/-- The lines that make no sense, with their numbers and the reasons. -/
def complaintsIn (text : String) : List (Nat × Fault) :=
  (textLines text).zipIdx.filterMap fun (line, i) =>
    match Record.parse line with
    | .ok _ => none
    | .error e => some (i + 1, e)

/-- The text without the lines that grant a kind to a container. -/
def without (container : String) (kind : Kind) (text : String) : String :=
  String.join ((textLines text).filter fun line => !revoked (grantOn? line))
where
  /-- Whether a grant is taken back. -/
  revoked : Option Record → Bool
    | some r => r.container = container ∧ r.kind = kind
    | none => false

/-- How many lines of a text grant a kind to a container. -/
def countIn (container : String) (kind : Kind) (text : String) : Nat :=
  (grantsIn text).countP fun r => r.container = container ∧ r.kind = kind

/-- A value that fits on a line. -/
def fitsLine (value : String) : Bool :=
  let ls := Text.splitLines value.toList
  ls = [] ∨ ls = [value.toList]

/-- Makes the directory of the file. -/
def makeDirectory (s : Store) : Session Unit :=
  onDisk (DiskM.makeDirs s.path.parent 0o777 true)

/-- Makes the file with its heading, unless it is there. Says whether it was made. -/
def ensureExists (s : Store) : Session Bool := do
  s.makeDirectory
  let made ← onDisk (tryCatch (do DiskM.writeNew s.path heading 0o644; pure true) fun
    | .alreadyThere => pure false
    | e => throw e)
  if made then log .info source ("Created permissions file " ++ s.path.text)
  pure made

/-- The text of the file; a missing file has none. -/
def text (s : Store) : Session String := do
  if ← ask (·.holds s.path) then ask (·.readText s.path) else pure ""

/-- All grants in the order of the file. -/
def records (s : Store) : Session (List Record) := do
  let text ← s.text
  (complaintsIn text).forM fun (number, fault) =>
    log .warning source (s.path.text ++ ":" ++ toString number ++ ": skipping unparseable line: "
      ++ fault.message)
  pure (grantsIn text)

/-- The grants of one container. -/
def list (s : Store) (container : String) : Session (List Record) := do
  return (← s.records).filter (·.container = container)

/-- The containers that have grants, in the order of their first ones. -/
def containers (s : Store) : Session (List String) := do
  return ((← s.records).map Record.container).eraseDups

/-- Adds a grant. Nothing is merged, and nothing is touched if the grant is refused. -/
def grant (s : Store) (container kind value : String) : Session Record := do
  let k ← require (Kind.parse kind)
  let name ← require (checkName container)
  unless fitsLine value do throw (.lineBreak value)
  let r : Record := ⟨name, k, value⟩
  s.makeDirectory
  onDisk (DiskM.appendLine s.path r.line)
  log .debug source ("Granted " ++ r.line)
  pure r

/-- Takes back all grants of a kind to a container. Says how many there were; if there were none
the file is not written. -/
def revoke (s : Store) (container kind : String) : Session Nat := do
  let k ← require (Kind.parse kind)
  let text ← s.text
  let count := countIn container k text
  if count ≠ 0 then
    onDisk (DiskM.replace s.path (without container k text))
    log .debug source
      ("Revoked " ++ toString count ++ " " ++ k.name ++ " record(s) from " ++ container)
  pure count

end Store

end BoxWarden
