import BoxWarden.Fault
import BoxWarden.Host

/-!
The environment of a run, and the places and defaults that follow from it. A variable that is set
but empty counts as unset.
-/

namespace BoxWarden

/-- The name of the application, of its version and of its files. -/
def appName : String := "distrobox-secure"
def appVersion : String := "1.0.0"
def configName : String := "permissions.conf"
def logName : String := "distrobox-secure.log"

/-- The image of a container for which nothing names another. -/
def builtinImage : String := "registry.fedoraproject.org/fedora-toolbox:latest"

/-- The variables that matter, the user, and the home directories of the users by name, as far as
there are such users. Where the variable of the own home is unset, `home` is what is on record for
the user. -/
structure Environment where
  home : String
  configHome : Option String := none
  dataHome : Option String := none
  stateHome : Option String := none
  configFile : Option String := none
  image : Option String := none
  visual : Option String := none
  editor : Option String := none
  session : SessionVars := {}
  uid : Int := 1000
  users : String → Option String := fun _ => none

namespace Environment

/-- A path with the home that it starts from in place. -/
def expand (env : Environment) (p : Path) : Except Fault Path :=
  (p.expandHome env.home env.users).mapError Fault.home

/-- The directory of a user's files of one sort: the one a variable names, else one below the home
directory. The home directory has to be known either way. -/
def baseDir (env : Environment) (var : Option String) (below : List String) :
    Except Fault Path := do
  let home ← env.expand (Path.parse "~")
  match nonEmpty? var with
  | some dir => pure (Path.parse dir)
  | none => pure (below.foldl Path.child home)

def configDir (env : Environment) : Except Fault Path :=
  return (← env.baseDir env.configHome [".config"]).child appName

def dataDir (env : Environment) : Except Fault Path :=
  return (← env.baseDir env.dataHome [".local", "share"]).child appName

def stateDir (env : Environment) : Except Fault Path :=
  return (← env.baseDir env.stateHome [".local", "state"]).child appName

/-- The file of grants: the one a variable names, else one in the directory for settings. -/
def configPath (env : Environment) : Except Fault Path :=
  match nonEmpty? env.configFile with
  | some file => env.expand (Path.parse file)
  | none => return (← env.configDir).child configName

/-- The image of a container for which the command line names none. -/
def defaultImage (env : Environment) : String := (nonEmpty? env.image).getD builtinImage

/-- The host as the environment shows it. -/
def host (env : Environment) : Host := Host.detect env.session env.uid

/-- The command line of the text editor. -/
def editorLine (env : Environment) : String :=
  (nonEmpty? env.visual).getD ((nonEmpty? env.editor).getD "vi")

end Environment

end BoxWarden
