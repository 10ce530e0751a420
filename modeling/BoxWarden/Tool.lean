import BoxWarden.CreateCommand
import BoxWarden.Listing
import BoxWarden.Session

/-!
Running the container program. Creating a container and listing containers fail if the program
does; stopping and removing one is a best effort.
-/

namespace BoxWarden.Tool

open Session

/-- Where these entries of the log come from. -/
def source : String := "distrobox"

/-- What a command that was started came to. -/
structure Outcome where
  code : Int
  out : String
  err : String
deriving DecidableEq, Repr

/-- Runs a command. A program that is missing is a failure of the command; any other failure of the
call is not. -/
def run (command : List String) (captured : Bool) : Session Outcome := do
  log .debug source ("Running: " ++ Shell.join command)
  match ← start command captured with
  | .ended code out err => pure ⟨code, out, err⟩
  | .refused .notFound =>
    match command with
    | [] => throw .noProgram
    | name :: _ => throw (.tool ⟨command, none, name ++ " not found on PATH"⟩)
  | .refused e => throw (.disk e)

/-- Runs a create command. Nothing is undone if it fails. -/
def create (command : List String) : Session Unit := do
  let o ← run command false
  if o.code ≠ 0 then throw (.tool ⟨command, some o.code, ""⟩)
  log .info source ("Created container via: " ++ Shell.join command)

/-- The containers there are. -/
def list : Session (List ListedContainer) := do
  let command := [program, "list", "--no-color"]
  let o ← run command true
  if o.code ≠ 0 then throw (.tool ⟨command, some o.code, Text.trim o.err⟩)
  pure (Listing.parse o.out)

/-- The first container of a name. -/
def find? (name : String) : Session (Option ListedContainer) := do
  return (← list).find? (·.name = name)

/-- Runs a command whose failure is only noted. -/
def attempt (command : List String) (verb failed name : String) : Session Bool :=
  orElseTool
    (do
      let o ← run command true
      if o.code ≠ 0 then
        log .warning source (verb ++ " " ++ name ++ " exited " ++ toString o.code ++ ": "
          ++ Text.trim o.err)
        pure false
      else pure true)
    fun f => do
      log .warning source ("Could not " ++ failed ++ " " ++ name ++ ": " ++ f.message)
      pure false

/-- Stops a container, if it can. -/
def stop (name : String) : Session Bool :=
  attempt [program, "stop", "--yes", name] "distrobox stop" "stop" name

/-- Removes a container, if it can. -/
def remove (name : String) : Session Bool :=
  attempt [program, "rm", "--force", name] "distrobox rm" "remove" name

/-- The first container of a name, or none if the list cannot be had; the reason is logged for
`source`. -/
def findOrNone (source name : String) : Session (Option ListedContainer) :=
  orElseTool (find? name) fun f => do
    log .warning source ("Could not list containers: " ++ f.message)
    pure none

/-- Stops and removes a container before it is built anew; what was listed of it is the result. -/
def teardown (name : String) : Session (Option ListedContainer) := do
  let existing ← findOrNone source name
  let _ ← stop name
  let _ ← remove name
  pure existing

end BoxWarden.Tool
