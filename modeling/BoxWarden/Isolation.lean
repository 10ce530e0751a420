import BoxWarden.Fault

/-!
Which namespaces a container has for itself. The five namespaces and the switch for all the rest
are independent: turning the switch on touches none of the five.
-/

namespace BoxWarden

/-- What is isolated. A new container has the five namespaces for itself. -/
structure Isolation where
  netns : Bool := true
  devsys : Bool := true
  groups : Bool := true
  ipc : Bool := true
  process : Bool := true
  rest : Bool := false
deriving DecidableEq, Repr

namespace Isolation

/-- Whether a namespace is isolated. -/
def has (s : Isolation) : Namespace → Bool
  | .netns => s.netns
  | .devsys => s.devsys
  | .groups => s.groups
  | .ipc => s.ipc
  | .process => s.process

/-- Shares one namespace with the host. -/
def share (s : Isolation) : Namespace → Isolation
  | .netns => { s with netns := false }
  | .devsys => { s with devsys := false }
  | .groups => { s with groups := false }
  | .ipc => { s with ipc := false }
  | .process => { s with process := false }

/-- Shares everything with the host. -/
def shareAll (_ : Isolation) : Isolation := ⟨false, false, false, false, false, false⟩

/-- Turns the switch for all the rest. -/
def setRest (s : Isolation) (on : Bool) : Isolation := { s with rest := on }

/-- Shares the namespace of a name. -/
def shareNamed (s : Isolation) (name : String) : Except Fault Isolation :=
  match Namespace.ofName? name with
  | some n => .ok (s.share n)
  | none => .error (.unknownNamespace name)

/-- The namespaces that are isolated, in the order of their flags. -/
def isolated (s : Isolation) : List Namespace := Namespace.all.filter s.has

/-- The namespaces that are shared, in the order of their flags. -/
def shared (s : Isolation) : List Namespace := Namespace.all.filter fun n => !s.has n

/-- The flags that bring the isolation about. -/
def flags (s : Isolation) : List String :=
  s.isolated.map Namespace.flag ++ if s.rest then ["--unshare-all"] else []

@[simp] theorem has_share (s : Isolation) (n m : Namespace) :
    (s.share n).has m = (s.has m && m != n) := by cases n <;> cases m <;> simp [share, has]

@[simp] theorem has_shareAll (s : Isolation) (n : Namespace) : s.shareAll.has n = false := by
  cases n <;> rfl

@[simp] theorem has_setRest (s : Isolation) (on : Bool) (n : Namespace) :
    (s.setRest on).has n = s.has n := by cases n <;> rfl

@[simp] theorem rest_share (s : Isolation) (n : Namespace) : (s.share n).rest = s.rest := by
  cases n <;> rfl

@[simp] theorem rest_shareAll (s : Isolation) : s.shareAll.rest = false := rfl

@[simp] theorem rest_setRest (s : Isolation) (on : Bool) : (s.setRest on).rest = on := rfl

end Isolation

end BoxWarden
