/-!
The kernel namespaces that a container can share with its host or have for itself.
-/

namespace BoxWarden

/-- A namespace that is isolated by itself. -/
inductive Namespace
  | netns
  | devsys
  | groups
  | ipc
  | process
deriving DecidableEq, Repr

namespace Namespace

/-- All of them, in the order of their flags. -/
def all : List Namespace := [netns, devsys, groups, ipc, process]

theorem mem_all (n : Namespace) : n ∈ all := by cases n <;> decide

def name : Namespace → String
  | netns => "netns"
  | devsys => "devsys"
  | groups => "groups"
  | ipc => "ipc"
  | process => "process"

/-- The flag that isolates it. -/
def flag : Namespace → String
  | netns => "--unshare-netns"
  | devsys => "--unshare-devsys"
  | groups => "--unshare-groups"
  | ipc => "--unshare-ipc"
  | process => "--unshare-process"

/-- What its isolation means for the container. -/
def description : Namespace → String
  | netns => "Network namespace (own network stack, no host sockets)"
  | devsys => "Devices and /sys (no host device nodes)"
  | groups => "Supplementary groups (host groups not visible)"
  | ipc => "IPC namespace (no host shared memory or semaphores)"
  | process => "PID namespace (cannot see or signal host processes)"

/-- The namespace of a name. -/
def ofName? (s : String) : Option Namespace := all.find? (·.name = s)

theorem ofName?_name (n : Namespace) : ofName? n.name = some n := by cases n <;> decide

theorem name_of_ofName? {s : String} {n : Namespace} (h : ofName? s = some n) : n.name = s := by
  simpa using List.find?_some h

end Namespace

end BoxWarden
