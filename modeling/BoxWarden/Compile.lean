import BoxWarden.Grant.Value
import BoxWarden.Host
import BoxWarden.Isolation

/-!
From grants to flags. Each record either asks for something, as `Kind.effect?` says of its kind and
value, or is set aside. Compiling a list collects the flags in order and carries out the changes of
isolation one after another.
-/

namespace BoxWarden

/-- A flag that a grant has led to. A native flag is an option of the create command itself; any
other goes to the container engine. -/
structure Flag where
  kind : Kind
  tokens : List String
  native : Bool := false
deriving DecidableEq, Repr

/-- The flag as it would be typed. -/
def Flag.text (f : Flag) : String := Shell.join f.tokens

/-- A change of isolation. -/
inductive Change
  | keep
  | share (n : Namespace)
  | shareAll
  | isolateRest
deriving DecidableEq, Repr

/-- Carries out a change. -/
def Change.apply : Change → Isolation → Isolation
  | .keep, s => s
  | .share n, s => s.share n
  | .shareAll, s => s.shareAll
  | .isolateRest, s => s.setRest true

/-- What a grant asks for. -/
structure Effect where
  flags : List Flag
  change : Change := .keep
deriving DecidableEq, Repr

/-- The tokens that bind a host path, readable and writable. -/
def volume (source target : String) : List String :=
  ["--volume", source ++ ":" ++ target ++ ":rw"]

/-- What a grant of a kind asks for with a value, or nothing if the value makes no sense for the
kind. -/
def Kind.effect? (h : Host) (k : Kind) (value : String) : Option Effect :=
  match k with
  | .homeFolder =>
    let path := Text.trim value
    if path = "" then none else some ⟨[⟨k, volume path path, false⟩], .keep⟩
  | .mount => (splitMount? value).map fun m => ⟨[⟨k, volume m.1 m.2, false⟩], .keep⟩
  | .network =>
    let mode := word value
    if networkModes.contains mode then
      some ⟨[⟨k, ["--network", mode], false⟩], .share .netns⟩
    else none
  | .x11 => enabled [
      volume "/tmp/.X11-unix" "/tmp/.X11-unix", ["--env", "DISPLAY=" ++ h.display],
      ["--env", "XAUTHORITY=" ++ h.xauthority]]
  | .wayland => enabled [
      volume h.waylandSocket h.waylandSocket,
      ["--env", "WAYLAND_DISPLAY=" ++ h.waylandDisplay]]
  | .audio => enabled [volume h.pulseSocket h.pulseSocket, ["--device", "/dev/snd"]]
  | .gpu => enabled [["--device", "/dev/dri"], ["--device", "nvidia.com/gpu=all"]]
  | .usb =>
    if isEnable value then
      some ⟨[⟨k, volume "/dev/bus/usb" "/dev/bus/usb", false⟩], .share .devsys⟩
    else none
  | .webcam => enabled [["--device", "/dev/video0"]]
  | .unshare n => if isDisable value then some ⟨[], .share n⟩ else none
  | .unshareAll =>
    if isDisable value then some ⟨[], .shareAll⟩
    else if isEnable value then some ⟨[], .isolateRest⟩
    else none
  | .privileged => enabled [["--privileged"]]
  | .root => enabledNative ["--root"]
  | .init => enabledNative ["--init"]
  | .hostname => withValue "--hostname" true
  | .capAdd => withValue "--cap-add" false
  | .securityOpt => withValue "--security-opt" false
where
  /-- Engine flags, if the value turns them on. -/
  enabled (flags : List (List String)) : Option Effect :=
    if isEnable value then some ⟨flags.map fun tokens => ⟨k, tokens, false⟩, .keep⟩ else none
  /-- A native flag, if the value turns it on. -/
  enabledNative (tokens : List String) : Option Effect :=
    if isEnable value then some ⟨[⟨k, tokens, true⟩], .keep⟩ else none
  /-- A flag that takes the value, if there is one. -/
  withValue (flag : String) (native : Bool) : Option Effect :=
    let v := Text.trim value
    if v = "" then none else some ⟨[⟨k, [flag, v], native⟩], .keep⟩

/-- What the grants of one container come to. -/
structure Compiled where
  flags : List Flag := []
  isolation : Isolation := {}
  ignored : List Record := []
deriving DecidableEq, Repr

namespace Compiled

/-- The flags that isolate namespaces. -/
def unshare (c : Compiled) : List String := c.isolation.flags

/-- All flags as one sequence of tokens, with nothing wrapped. -/
def tokens (c : Compiled) : List String := c.unshare ++ c.flags.flatMap Flag.tokens

/-- One more record. -/
def add (h : Host) (c : Compiled) (r : Record) : Compiled :=
  match r.kind.effect? h r.value with
  | some e => { c with flags := c.flags ++ e.flags, isolation := e.change.apply c.isolation }
  | none => { c with ignored := c.ignored ++ [r] }

end Compiled

/-- Compiles records in order. -/
def compile (h : Host) (records : List Record) : Compiled := records.foldl (Compiled.add h) {}

end BoxWarden
