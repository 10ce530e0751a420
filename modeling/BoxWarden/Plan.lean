import BoxWarden.Homes
import BoxWarden.Store
import BoxWarden.Summary
import BoxWarden.Terminal
import BoxWarden.Tool

/-!
Creating a container, and building one anew: from its grants to the command, and from the command to
the container.
-/

namespace BoxWarden

/-- All that is needed to create a container. -/
structure Plan where
  name : String
  image : String
  command : List String
  compiled : Compiled
deriving DecidableEq, Repr

namespace Plan

open Session

/-- Where these entries of the log come from. -/
def source : String := "command_execution"

/-- The note on a record that is set aside. -/
def ignoredNote (r : Record) : String :=
  "Ignoring " ++ r.kind.name ++ " value " ++ Text.quoted r.value ++ " for " ++ r.container

/-- Compiles records and notes the ones that are set aside. -/
def compileNoted (h : Host) (records : List Record) : Session Compiled := do
  let c := compile h records
  c.ignored.forM fun r => log .warning "compiler" (ignoredNote r)
  pure c

/-- Plans a container from the grants it has now. The host is found out if none is given. -/
def make (env : Environment) (store : Store) (name image : String) (host : Option Host) :
    Session Plan := do
  let records ← store.list name
  let compiled ← compileNoted (host.getD env.host) records
  let home ← require (Homes.home env name)
  log .debug source (name ++ ": " ++ toString records.length ++ " record(s), "
    ++ toString compiled.flags.length ++ " permission flag(s)")
  pure ⟨name, image, createCommand name image home.text compiled.unshare compiled.flags, compiled⟩

/-- Shows a plan and, unless it is a dry run, carries it out. -/
def execute (env : Environment) (plan : Plan) (dryRun : Bool) : Session Unit := do
  Terminal.printHeader plan.command plan.compiled.summary dryRun
  unless dryRun do
    let _ ← Homes.ensure env plan.name
    Tool.create plan.command

/-- The image of a container that is built anew: the one asked for, else the one it has, else the
default. -/
def imageFor (asked : Option String) (existing : Option ListedContainer) (default : String) :
    String :=
  match asked, existing with
  | some image, _ => image
  | none, some c => if c.image = "" then default else c.image
  | none, none => default

/-- Takes a container down and builds it from the grants it has now. A dry run only looks. -/
def recreate (env : Environment) (store : Store) (name : String) (asked : Option String)
    (default : String) (host : Option Host) (dryRun : Bool) : Session Plan := do
  let existing ← if dryRun then Tool.findOrNone source name else Tool.teardown name
  let plan ← make env store name (imageFor asked existing default) host
  plan.execute env dryRun
  pure plan

end Plan

end BoxWarden
