import BoxWarden.Compile

/-!
The command that creates a container. Its parts stand in a fixed order: what the container is, the
isolation, the grants, and last the hardening that every container gets.
-/

namespace BoxWarden

/-- The program that makes containers. -/
def program : String := "distrobox"

/-- A flag for the container engine, handed on as one argument. -/
def wrap (tokens : List String) : List String := ["--additional-flags", Shell.join tokens]

/-- The arguments of a flag. -/
def Flag.arguments (f : Flag) : List String := if f.native then f.tokens else wrap f.tokens

/-- A restriction that no grant lifts. -/
structure Hardening where
  tokens : List String
  description : String
deriving DecidableEq, Repr

/-- The restrictions of every container. -/
def hardening : List Hardening := [
  ⟨["--security-opt", "no-new-privileges"], "Cannot gain privileges through setuid binaries"⟩,
  ⟨["--cap-drop", "ALL"], "All Linux capabilities dropped"⟩,
  ⟨["--read-only-tmpfs"], "Temporary filesystems mounted fresh, discarded on exit"⟩]

/-- The command that creates a container. -/
def createCommand (name image home : String) (unshare : List String) (flags : List Flag) :
    List String :=
  [program, "create", "--name", name, "--image", image, "--home", home, "--no-entry"]
    ++ unshare ++ flags.flatMap Flag.arguments ++ hardening.flatMap fun x => wrap x.tokens

end BoxWarden
