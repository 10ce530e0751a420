import BoxWarden.CreateCommand

/-!
What a compiled set of grants means, in sections of plain sentences.
-/

namespace BoxWarden

/-- What a kind is called in a summary. -/
def Kind.label : Kind → String
  | .homeFolder => "Host folder (read-write)"
  | .mount => "Mount (read-write)"
  | .network => "Network"
  | .x11 => "X11 display"
  | .wayland => "Wayland display"
  | .audio => "Audio"
  | .gpu => "GPU"
  | .usb => "USB devices"
  | .webcam => "Webcam"
  | .privileged => "Privileged container"
  | .root => "Rootful container"
  | .init => "Init system"
  | .hostname => "Hostname"
  | .capAdd => "Extra capability"
  | .securityOpt => "Security option"
  | k => k.name

/-- A heading with its items. An inactive section says what the container does without. -/
structure Section where
  heading : String
  items : List String
  active : Bool
deriving DecidableEq, Repr

/-- The bullet before a heading, and the indent before an item. -/
def Section.headingLine (s : Section) : String := "• " ++ s.heading
def itemLine (item : String) : String := "  - " ++ item

/-- The section, if it has items. -/
def Section.unlessEmpty (s : Section) : List Section := if s.items = [] then [] else [s]

namespace Compiled

/-- What is isolated from the host. -/
def isolatedItems (c : Compiled) : List String :=
  c.isolation.isolated.map Namespace.description
    ++ if c.isolation.rest then ["Everything else distrobox can unshare (--unshare-all)"] else []

/-- What is granted: one item for each flag. -/
def grantedItems (c : Compiled) : List String :=
  c.flags.map fun f => f.kind.label ++ ": " ++ f.text

/-- The sections of a summary. Only the one on hardening is always there. -/
def sections (c : Compiled) : List Section :=
  Section.unlessEmpty ⟨"Isolated from host:", c.isolatedItems, true⟩
    ++ Section.unlessEmpty
      ⟨"Shared with host:", c.isolation.shared.map Namespace.description, false⟩
    ++ Section.unlessEmpty
      ⟨"Granted (" ++ toString c.flags.length ++ "):", c.grantedItems, true⟩
    ++ [⟨"Always enforced:", hardening.map Hardening.description, true⟩]
    ++ Section.unlessEmpty
      ⟨"Ignored (value not understood):", c.ignored.map Record.line, false⟩

/-- The summary as plain text. -/
def summary (c : Compiled) : String :=
  "\n".intercalate (c.sections.flatMap fun s => s.headingLine :: s.items.map itemLine)

end Compiled

end BoxWarden
