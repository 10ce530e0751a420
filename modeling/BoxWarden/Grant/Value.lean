import BoxWarden.Grant.Record
import BoxWarden.Text.Case

/-!
How the values of grants are read: words for on and off, network modes, mounts, and the host path
that a grant exposes.
-/

namespace BoxWarden

/-- A value as a word: no white space at either end, and the case of its letters does not count. -/
def word (value : String) : String := Text.lower (Text.trim value)

def enableWords : List String := ["enable", "enabled", "true", "yes", "1"]
def disableWords : List String := ["false", "no", "0", "disable", "disabled"]
def networkModes : List String := ["host", "bridge"]

/-- A value that turns something on. -/
def isEnable (value : String) : Bool := enableWords.contains (word value)

/-- A value that turns something off. -/
def isDisable (value : String) : Bool := disableWords.contains (word value)

/-- The source and the target of a mount: the parts before and after the first colon, unless one of
them is empty. -/
def splitMount? (value : String) : Option (String × String) :=
  match Text.cut? ':' value.toList with
  | some (source, target) =>
    if source = [] ∨ target = [] then none
    else some (String.ofList source, String.ofList target)
  | none => none

/-- The host path that a grant exposes, if it exposes one. -/
def Kind.hostPath? (k : Kind) (value : String) : Option String :=
  match k with
  | .homeFolder => nonEmptyText? (Text.trim value)
  | .mount => (splitMount? value).map Prod.fst
  | _ => none
where
  /-- A text that is not empty. -/
  nonEmptyText? (s : String) : Option String := if s = "" then none else some s

end BoxWarden
