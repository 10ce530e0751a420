import BoxWarden.Path

/-!
What the host offers to a container that may use its display or its sound.
-/

namespace BoxWarden

/-- The variables of a desktop session. -/
structure SessionVars where
  display : Option String := none
  xauthority : Option String := none
  waylandDisplay : Option String := none
  runtimeDir : Option String := none
deriving DecidableEq, Repr

/-- A variable that is set and not empty. -/
def nonEmpty? (v : Option String) : Option String := v.filter (· ≠ "")

/-- A snapshot of the host, taken once for each run. -/
structure Host where
  display : String := ":0"
  xauthority : String := ""
  waylandDisplay : String := "wayland-0"
  runtimeDir : String := "/run/user/1000"
deriving DecidableEq, Repr

namespace Host

/-- The socket of the Wayland display; a display named by an absolute path is its own socket. -/
def waylandSocket (h : Host) : String := ((Path.parse h.runtimeDir).join h.waylandDisplay).text

/-- The socket of the sound server. -/
def pulseSocket (h : Host) : String :=
  (((Path.parse h.runtimeDir).child "pulse").child "native").text

/-- The host that a session shows. An empty variable counts as unset, but for the authority file,
which may be empty. -/
def detect (vars : SessionVars) (uid : Int) : Host where
  display := (nonEmpty? vars.display).getD ":0"
  xauthority := vars.xauthority.getD ""
  waylandDisplay := (nonEmpty? vars.waylandDisplay).getD "wayland-0"
  runtimeDir := (nonEmpty? vars.runtimeDir).getD ("/run/user/" ++ toString uid)

end Host

end BoxWarden
