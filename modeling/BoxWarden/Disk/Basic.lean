import BoxWarden.Path

/-!
A tree of files as a value: nodes at locations. `Disk.get?` is its view, and a node that is put at a
place changes the view there and nowhere else.
-/

namespace BoxWarden

/-- A place in the tree: the names on the way from the top. -/
abbrev Loc := List String

/-- What stands at a place, with its permission bits. -/
inductive Node
  | dir (mode : Nat)
  | file (mode : Nat) (content : ByteArray)

/-- Nodes compare by their bits and bytes. -/
instance : DecidableEq Node
  | .dir m, .dir m' => decidable_of_iff (m = m') (by simp)
  | .file m c, .file m' c' =>
    decidable_of_iff (m = m' ∧ c.data = c'.data) (by simp [ByteArray.ext_iff])
  | .dir _, .file .. => isFalse nofun
  | .file .., .dir _ => isFalse nofun

def Node.mode : Node → Nat
  | .dir m => m
  | .file m _ => m

def Node.isDir : Node → Bool
  | .dir _ => true
  | .file .. => false

/-- A tree and the directory that relative paths start from. -/
structure Disk where
  nodes : List (Loc × Node)
  cwd : Loc

namespace Disk

/-- The first node listed for a place. -/
def nodeAt (l : Loc) : List (Loc × Node) → Option Node
  | [] => none
  | (k, n) :: r => if k = l then some n else nodeAt l r

/-- The nodes with one of them put in place. -/
def putNode (l : Loc) (n : Node) : List (Loc × Node) → List (Loc × Node)
  | [] => [(l, n)]
  | (k, m) :: r => if k = l then (l, n) :: r else (k, m) :: putNode l n r

/-- The node at a place. -/
def get? (d : Disk) (l : Loc) : Option Node := nodeAt l d.nodes

/-- The tree with a node at a place. -/
def put (d : Disk) (l : Loc) (n : Node) : Disk := { d with nodes := putNode l n d.nodes }

/-- The tree with nothing at a place. -/
def remove (d : Disk) (l : Loc) : Disk := { d with nodes := d.nodes.filter (·.1 ≠ l) }

theorem nodeAt_putNode (l k : Loc) (n : Node) (es : List (Loc × Node)) :
    nodeAt k (putNode l n es) = if l = k then some n else nodeAt k es := by
  induction es with
  | nil => rfl
  | cons e r ih =>
    obtain ⟨j, m⟩ := e
    by_cases hj : j = l
    · by_cases h : l = k <;> simp [putNode, nodeAt, hj, h]
    · by_cases h : l = k
      · subst h; simp [putNode, nodeAt, hj, ih]
      · simp [putNode, nodeAt, hj, ih, h]

@[simp] theorem get?_put_self (d : Disk) (l : Loc) (n : Node) : (d.put l n).get? l = some n := by
  simp [get?, put, nodeAt_putNode]

theorem get?_put_of_ne (d : Disk) {l k : Loc} (n : Node) (h : l ≠ k) :
    (d.put l n).get? k = d.get? k := by
  simp [get?, put, nodeAt_putNode, h]

end Disk

end BoxWarden
