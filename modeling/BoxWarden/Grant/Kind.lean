import BoxWarden.Namespace

/-!
What a container can be granted.
-/

namespace BoxWarden

/-- The kinds of grant. -/
inductive Kind
  | homeFolder
  | mount
  | network
  | x11
  | wayland
  | audio
  | gpu
  | usb
  | webcam
  | unshare (n : Namespace)
  | unshareAll
  | privileged
  | root
  | init
  | hostname
  | capAdd
  | securityOpt
deriving DecidableEq, Repr

namespace Kind

/-- The kinds in the order of their listing. -/
def all : List Kind := [
  homeFolder, mount, network, x11, wayland, audio, gpu, usb, webcam, unshare .netns,
  unshare .devsys, unshare .groups, unshare .ipc, unshare .process, unshareAll, privileged, root,
  init, hostname, capAdd, securityOpt]

theorem mem_all (k : Kind) : k ∈ all := by
  cases k with
  | unshare n => cases n <;> decide
  | _ => decide

/-- The name that stands in a record. -/
def name : Kind → String
  | homeFolder => "home_folder"
  | mount => "mount"
  | network => "network"
  | x11 => "x11"
  | wayland => "wayland"
  | audio => "audio"
  | gpu => "gpu"
  | usb => "usb"
  | webcam => "webcam"
  | unshare .netns => "unshare_netns"
  | unshare .devsys => "unshare_devsys"
  | unshare .groups => "unshare_groups"
  | unshare .ipc => "unshare_ipc"
  | unshare .process => "unshare_process"
  | unshareAll => "unshare_all"
  | privileged => "privileged"
  | root => "root"
  | init => "init"
  | hostname => "hostname"
  | capAdd => "cap_add"
  | securityOpt => "security_opt"

/-- The names in the order of their listing. -/
def names : List String := all.map name

/-- The kind of a name. -/
def ofName? (s : String) : Option Kind := all.find? (·.name = s)

theorem ofName?_name (k : Kind) : ofName? k.name = some k := by
  cases k with
  | unshare n => cases n <;> decide
  | _ => decide

theorem name_of_ofName? {s : String} {k : Kind} (h : ofName? s = some k) : k.name = s := by
  simpa using List.find?_some h

/-- Two kinds never share a name. -/
theorem name_injective {k k' : Kind} (h : k.name = k'.name) : k = k' := by
  have hk := ofName?_name k
  rw [h, ofName?_name] at hk
  exact (Option.some.inj hk).symm

/-- A name is the name of a kind exactly if it is listed. -/
theorem ofName?_eq_none_iff {s : String} : ofName? s = none ↔ s ∉ names := by
  simp [ofName?, names, List.find?_eq_none]

end Kind

end BoxWarden
