import BoxWarden.Proofs.Disk.Parents

/-!
Trees that list their nodes as a file system does, so that what a directory holds is what is listed
in it, once each.
-/

namespace BoxWarden.Disk

/-- No place is listed twice, and no name is too long or holds a NUL. -/
structure Tidy (d : Disk) : Prop where
  keys : (d.nodes.map Prod.fst).Nodup
  names : ∀ l n, d.get? l = some n → ∀ x ∈ l, x.utf8ByteSize ≤ maxName ∧ '\x00' ∉ x.toList

variable {d d' : Disk} {p : Path} {l : Loc}

/-- Whether a tree is a tidy one, as a test of the nodes that it lists. -/
def isTidy (d : Disk) : Bool :=
  decide (d.nodes.map Prod.fst).Nodup &&
    d.nodes.all fun e => e.1.all fun x => x.utf8ByteSize ≤ maxName && !x.toList.contains '\x00'

theorem tidy_of_isTidy (h : d.isTidy = true) : d.Tidy := by
  rw [isTidy, Bool.and_eq_true, decide_eq_true_eq, List.all_eq_true] at h
  refine ⟨h.1, fun l n hl x hx => ?_⟩
  have hx' := List.all_eq_true.mp (h.2 (l, n) (mem_of_nodeAt hl)) x hx
  simpa using hx'

/-- Something stands at a place if it is listed. -/
theorem nodeAt_ne_none_iff {es : List (Loc × Node)} :
    nodeAt l es ≠ none ↔ l ∈ es.map Prod.fst := by
  induction es with
  | nil => simp [nodeAt]
  | cons e es ih =>
    rw [nodeAt, List.map_cons, List.mem_cons]
    by_cases he : e.1 = l
    · simp [he]
    · rw [if_neg he, ih]
      simp [Ne.symm he]

theorem mem_keys_putNode {k : Loc} {n : Node} {es : List (Loc × Node)} :
    k ∈ (putNode l n es).map Prod.fst ↔ k = l ∨ k ∈ es.map Prod.fst := by
  rw [← nodeAt_ne_none_iff, ← nodeAt_ne_none_iff, nodeAt_putNode]
  by_cases hk : l = k
  · simp [hk]
  · simp [hk, Ne.symm hk]

theorem nodup_keys_putNode (l : Loc) (n : Node) {es : List (Loc × Node)}
    (h : (es.map Prod.fst).Nodup) : ((putNode l n es).map Prod.fst).Nodup := by
  induction es with
  | nil => simp [putNode]
  | cons e es ih =>
    obtain ⟨hnew, hes⟩ := List.nodup_cons.mp h
    by_cases he : e.1 = l
    · rw [putNode, if_pos he]
      exact he ▸ h
    · rw [putNode, if_neg he, List.map_cons, List.nodup_cons, mem_keys_putNode]
      exact ⟨not_or.mpr ⟨he, hnew⟩, ih hes⟩

theorem Tidy.put (h : d.Tidy) (hl : ∀ x ∈ l, x.utf8ByteSize ≤ maxName ∧ '\x00' ∉ x.toList)
    (n : Node) : (d.put l n).Tidy := by
  refine ⟨nodup_keys_putNode l n h.keys, fun k m hk => ?_⟩
  by_cases hkl : k = l
  · exact hkl ▸ hl
  · rw [get?_put_of_ne d n (Ne.symm hkl)] at hk
    exact h.names k m hk

/-- The names on a way are those of its parts, and short. -/
theorem names_of_walk {here : Loc} {parts : List String} (h : d.walk here parts = .ok l)
    {x : String} (hx : x ∈ l) : x ∈ here ∨ x ∈ parts ∧ x.utf8ByteSize ≤ maxName := by
  induction parts generalizing here with
  | nil =>
    obtain rfl := Except.ok.inj h
    exact .inl hx
  | cons part rest ih =>
    obtain ⟨-, hpart, hrest⟩ := walk_cons.mp h
    rcases ih hrest with hmem | ⟨hmem, hsize⟩
    · unfold Loc.follow at hmem
      split at hmem
      · exact .inl (List.dropLast_subset _ hmem)
      · next hup =>
        rcases List.mem_append.mp hmem with hmem | hmem
        · exact .inl hmem
        · obtain rfl := List.mem_singleton.mp hmem
          exact .inr ⟨List.mem_cons_self, hpart.resolve_left hup⟩
    · exact .inr ⟨List.mem_cons_of_mem _ hmem, hsize⟩

/-- A path leads to a place with proper names only. -/
theorem Tidy.names_of_locate (h : d.Tidy) (hd : d.WellFormed) (hl : d.locate p = .ok l) :
    ∀ x ∈ l, x.utf8ByteSize ≤ maxName ∧ '\x00' ∉ x.toList := by
  intro x hx
  obtain ⟨hnul, -, hwalk⟩ := locate_eq_ok_iff.mp hl
  rcases names_of_walk hwalk hx with hhere | ⟨hpart, hsize⟩
  · obtain ⟨m, hm⟩ := hd.cwd
    split at hhere
    · simp at hhere
    · exact h.names _ _ hm x hhere
  · refine ⟨hsize, fun hzero => ?_⟩
    rw [Path.hasNul, List.any_eq_false] at hnul
    exact hnul x hpart (by simpa using hzero)

theorem Tidy.makeDir (h : d.Tidy) (hd : d.WellFormed) {mode : Nat} (hm : d.makeDir p mode = .ok d') :
    d'.Tidy := by
  obtain ⟨hl, -, -, rfl⟩ := create_eq_ok_iff.mp hm
  exact h.put (h.names_of_locate hd hl) _

theorem Tidy.makeDirs (h : d.Tidy) (hd : d.WellFormed) (p : Path) (mode : Nat) (existing : Bool) :
    ((DiskM.makeDirs p mode existing).run d).2.Tidy :=
  (DiskM.makeDirs_keeps (P := fun d => d.WellFormed ∧ d.Tidy)
    (fun _ _ _ _ hd hm => ⟨hd.1.create hm, hd.2.makeDir hd.1 hm⟩) p mode existing ⟨hd, h⟩).2

/-- The name of a place in the directory that holds it. -/
def nameIn (l k : Loc) : Option String := if k.dropLast = l then k.getLast? else none

theorem nameIn_eq_some_iff {k : Loc} {x : String} : nameIn l k = some x ↔ k = l ++ [x] := by
  unfold nameIn
  constructor
  · intro hk
    split at hk
    · next hparent =>
      obtain ⟨r, rfl⟩ := List.getLast?_eq_some_iff.mp hk
      rw [List.dropLast_concat] at hparent
      rw [hparent]
    · cases hk
  · rintro rfl
    simp

/-- What a directory holds is listed in it, once. -/
theorem Tidy.list (h : d.Tidy) {m : Nat} (hl : d.locate p = .ok l) (hm : d.get? l = some (.dir m))
    (hread : Access.read.allowed l m = true) : ∃ names, d.list p = .ok names ∧ names.Nodup ∧
      ∀ x, x ∈ names ↔ d.get? (l ++ [x]) ≠ none := by
  have hlist : d.list p = .ok ((d.nodes.map Prod.fst).filterMap (nameIn l)) := by
    simp only [Disk.list, hl, hm, hread, bind, Except.bind, if_true, List.filterMap_map]
    rfl
  refine ⟨_, hlist, List.Pairwise.filterMap _ ?_ h.keys, fun x => ?_⟩
  · -- places in one directory that share a name are one place
    intro k k' hne x hx y hy hxy
    rw [nameIn_eq_some_iff] at hx hy
    exact hne (by rw [hx, hy, hxy])
  · simp only [get?, nodeAt_ne_none_iff, List.mem_filterMap, nameIn_eq_some_iff, exists_eq_right]

end BoxWarden.Disk
