import BoxWarden.Grant.Record
import BoxWarden.Session

/-!
The home directories of containers: one for each name, all in one directory, closed to everybody
but the user.
-/

namespace BoxWarden.Homes

open Session

/-- Where these entries of the log come from. -/
def source : String := "containers"

/-- The directory that holds the homes. -/
def dir (env : Environment) : Except Fault Path := return (← env.dataDir).child "homes"

/-- The home of a container. -/
def home (env : Environment) (name : String) : Except Fault Path := do
  let name ← checkName name
  return (← dir env).child name

/-- The mode of a new home. -/
def mode : Nat := 0o700

/-- Makes the home of a container, unless something is there. -/
def ensure (env : Environment) (name : String) : Session Path := do
  let p ← require (home env name)
  unless ← ask (·.holds p) do
    onDisk (DiskM.makeDirs p mode false)
    log .info source ("Created isolated home " ++ p.text)
  pure p

/-- The names of the homes, sorted. -/
def list (env : Environment) : Session (List String) := do
  let p ← require (dir env)
  if ← ask (·.holds p) then
    let names ← ask (·.list p)
    let homes ← names.filterM fun name => ask (·.holdsDir (p.child name))
    pure (homes.mergeSort fun a b => decide (a ≤ b))
  else pure []

end BoxWarden.Homes
