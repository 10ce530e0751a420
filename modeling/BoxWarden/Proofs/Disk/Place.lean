import BoxWarden.Disk.Change

/-!
Where a path leads. The place does not depend on the tree, only on whether there is a way to it: the
tree can refuse a path, but it cannot send it somewhere else. A way stays open as long as the
directories on it do.
-/

namespace BoxWarden

/-- One step along a path. -/
def Loc.follow (l : Loc) (part : String) : Loc := if part = ".." then l.dropLast else l ++ [part]

/-- Parts that never go up are the rest of the way. -/
theorem Loc.foldl_follow {parts : List String} (h : ".." ∉ parts) (here : Loc) :
    parts.foldl Loc.follow here = here ++ parts := by
  induction parts generalizing here with
  | nil => simp
  | cons part rest ih =>
    rw [List.mem_cons, not_or] at h
    rw [List.foldl_cons, ih h.2, Loc.follow, if_neg (Ne.symm h.1), List.append_assoc,
      List.singleton_append]

namespace Disk

/-- The place that a path stands for, whether or not there is a way to it. -/
def place (d : Disk) (p : Path) : Loc := DiskM.plainParts d.cwd p

theorem place_eq (d : Disk) (p : Path) :
    d.place p = p.parts.foldl Loc.follow (if p.isAbsolute then [] else d.cwd) := rfl

/-- One more part is one more step. -/
theorem place_child (d : Disk) (p : Path) (part : String) :
    d.place (p.child part) = (d.place p).follow part := by
  have habs : (p.child part).isAbsolute = p.isAbsolute := rfl
  rw [place_eq, place_eq, habs, Path.child, List.foldl_append, List.foldl_cons, List.foldl_nil]

theorem place_child_of_name (d : Disk) (p : Path) {part : String} (hup : part ≠ "..") :
    d.place (p.child part) = d.place p ++ [part] := by
  rw [place_child, Loc.follow, if_neg hup]

/-- What a directory on the way asks of the next part. -/
theorem walk_cons {d : Disk} {here l : Loc} {name : String} {rest : List String} :
    d.walk here (name :: rest) = .ok l ↔
      (∃ m, d.get? here = some (.dir m) ∧ Access.search.allowed here m = true) ∧
        (name = ".." ∨ name.utf8ByteSize ≤ maxName) ∧ d.walk (here.follow name) rest = .ok l := by
  rw [walk]
  cases hn : d.get? here with
  | none => simp
  | some n =>
    cases n with
    | file m c => simp
    | dir m =>
      cases hm : Access.search.allowed here m with
      | false => simp [hm]
      | true =>
        by_cases hd : name = ".."
        · simp [hm, hd, Loc.follow]
        · by_cases hs : name.utf8ByteSize > maxName
          · simp [hm, hd, hs, Nat.not_le.mpr hs]
          · simp [hm, hd, hs, Nat.le_of_not_lt hs, Loc.follow]

/-- A walk that arrives has followed the parts one by one. -/
theorem walk_eq {d : Disk} {here l : Loc} {parts : List String} (h : d.walk here parts = .ok l) :
    l = parts.foldl Loc.follow here := by
  induction parts generalizing here with
  | nil =>
    simp only [walk, Except.ok.injEq] at h
    exact h.symm
  | cons name rest ih => exact ih (walk_cons.mp h).2.2

theorem walk_append {d : Disk} {here l : Loc} {as bs : List String} :
    d.walk here (as ++ bs) = .ok l ↔
      ∃ mid, d.walk here as = .ok mid ∧ d.walk mid bs = .ok l := by
  induction as generalizing here with
  | nil => simp [walk]
  | cons name rest ih =>
    simp only [List.cons_append, walk_cons, ih]
    constructor
    · rintro ⟨hdir, hname, mid, hmid, hl⟩
      exact ⟨mid, ⟨hdir, hname, hmid⟩, hl⟩
    · rintro ⟨mid, ⟨hdir, hname, hmid⟩, hl⟩
      exact ⟨hdir, hname, mid, hmid, hl⟩

theorem locate_eq_ok_iff {d : Disk} {p : Path} {l : Loc} :
    d.locate p = .ok l ↔ p.hasNul = false ∧ p.text.utf8ByteSize ≤ maxPath ∧
      d.walk (if p.isAbsolute then [] else d.cwd) p.parts = .ok l := by
  unfold locate
  by_cases hn : p.hasNul = true
  · simp [hn]
  · by_cases ht : p.text.utf8ByteSize > maxPath
    · simp [hn, ht, Nat.not_le.mpr ht]
    · simp [hn, ht, Nat.le_of_not_lt ht]

/-- A path that the tree accepts leads to its place. -/
theorem place_of_locate {d : Disk} {p : Path} {l : Loc} (h : d.locate p = .ok l) : l = d.place p :=
  walk_eq (locate_eq_ok_iff.mp h).2.2

theorem locate_of_stat {d : Disk} {p : Path} {n : Node} (h : d.stat p = .ok n) :
    d.locate p = .ok (d.place p) ∧ d.get? (d.place p) = some n := by
  unfold stat at h
  cases hl : d.locate p with
  | error e =>
    rw [hl] at h
    cases h
  | ok l =>
    have hp := place_of_locate hl
    subst hp
    simp only [hl, bind, Except.bind] at h
    cases hn : d.get? (d.place p) with
    | none => simp [hn] at h
    | some m => simp_all

theorem stat_of_locate {d : Disk} {p : Path} {l : Loc} {n : Node} (hl : d.locate p = .ok l)
    (hn : d.get? l = some n) : d.stat p = .ok n := by
  simp only [stat, hl, hn, bind, Except.bind]

/-- Every directory of the one tree is in the other with the same permissions, and paths start from
the same place. -/
structure DirsIn (d d' : Disk) : Prop where
  cwd : d'.cwd = d.cwd
  dirs : ∀ l m, d.get? l = some (.dir m) → d'.get? l = some (.dir m)

theorem DirsIn.walk {d d' : Disk} (h : DirsIn d d') {here l : Loc} {parts : List String}
    (hw : d.walk here parts = .ok l) : d'.walk here parts = .ok l := by
  induction parts generalizing here with
  | nil => exact hw
  | cons name rest ih =>
    obtain ⟨⟨m, hm, hs⟩, hname, hrest⟩ := walk_cons.mp hw
    exact walk_cons.mpr ⟨⟨m, h.dirs _ _ hm, hs⟩, hname, ih hrest⟩

/-- A way stays open as long as its directories are there. -/
theorem DirsIn.locate {d d' : Disk} (h : DirsIn d d') {p : Path} {l : Loc}
    (hl : d.locate p = .ok l) : d'.locate p = .ok l := by
  rw [locate_eq_ok_iff] at hl ⊢
  rw [h.cwd]
  exact ⟨hl.1, hl.2.1, h.walk hl.2.2⟩

theorem DirsIn.place {d d' : Disk} (h : DirsIn d d') (p : Path) : d'.place p = d.place p := by
  rw [place_eq, place_eq, h.cwd]

/-- A tree of files: everything stands in a directory, paths start from one, and no name is a step
back. -/
structure WellFormed (d : Disk) : Prop where
  cwd : ∃ m, d.get? d.cwd = some (.dir m)
  parent : ∀ l n, d.get? l = some n → ∃ m, d.get? l.dropLast = some (.dir m)
  names : ∀ l n, d.get? l = some n → ".." ∉ l

theorem mem_of_nodeAt {l : Loc} {n : Node} {es : List (Loc × Node)} (h : nodeAt l es = some n) :
    (l, n) ∈ es := by
  induction es with
  | nil => simp [nodeAt] at h
  | cons e r ih =>
    rw [nodeAt] at h
    by_cases hk : e.1 = l
    · rw [if_pos hk, Option.some.injEq] at h
      rw [← hk, ← h]
      exact List.mem_cons_self
    · rw [if_neg hk] at h
      exact List.mem_cons_of_mem _ (ih h)

/-- Whether a tree is one of files, as a test of the nodes that it lists. -/
def isTree (d : Disk) : Bool :=
  (d.get? d.cwd).any Node.isDir &&
    d.nodes.all fun e => (d.get? e.1.dropLast).any Node.isDir && !e.1.contains ".."

theorem exists_dir_of_any {d : Disk} {l : Loc} (h : (d.get? l).any Node.isDir = true) :
    ∃ m, d.get? l = some (.dir m) := by
  cases hn : d.get? l with
  | none => simp [hn] at h
  | some n =>
    cases n with
    | dir m => exact ⟨m, rfl⟩
    | file m c => simp [hn, Node.isDir] at h

theorem wellFormed_of_isTree {d : Disk} (h : d.isTree = true) : d.WellFormed := by
  rw [isTree, Bool.and_eq_true, List.all_eq_true] at h
  obtain ⟨hcwd, hnodes⟩ := h
  have hnode (l : Loc) (n : Node) (hl : d.get? l = some n) :
      (d.get? l.dropLast).any Node.isDir = true ∧ ".." ∉ l := by
    simpa using hnodes (l, n) (mem_of_nodeAt hl)
  exact ⟨exists_dir_of_any hcwd, fun l n hl => exists_dir_of_any (hnode l n hl).1,
    fun l n hl => (hnode l n hl).2⟩

theorem WellFormed.top {d : Disk} (h : d.WellFormed) : ∃ m, d.get? [] = some (.dir m) := by
  obtain ⟨m, hm⟩ := h.cwd
  generalize d.cwd = l at hm
  generalize hn : l.length = n
  induction n generalizing l m with
  | zero =>
    rw [List.length_eq_zero_iff] at hn
    exact ⟨m, hn ▸ hm⟩
  | succ n ih =>
    obtain ⟨m', hm'⟩ := h.parent l _ hm
    exact ih m' l.dropLast hm' (by simp [hn])

/-- Nothing stands below what is missing. -/
theorem WellFormed.get?_append {d : Disk} (hd : d.WellFormed) {l : Loc} (hl : d.get? l = none)
    (rest : Loc) : d.get? (l ++ rest) = none := by
  induction rest generalizing l with
  | nil => rwa [List.append_nil]
  | cons x rest ih =>
    have hx : d.get? (l ++ [x]) = none := by
      cases hget : d.get? (l ++ [x]) with
      | none => rfl
      | some n =>
        obtain ⟨m, hm⟩ := hd.parent _ n hget
        rw [List.dropLast_concat, hl] at hm
        cases hm
    rw [← List.singleton_append, ← List.append_assoc]
    exact ih hx

/-- Where a way that never goes up misses something, its end is missing. -/
theorem WellFormed.get?_of_walk {d : Disk} (hd : d.WellFormed) {here : Loc} {parts : List String}
    (hw : d.walk here parts = .error .notFound) (hup : ".." ∉ parts) :
    d.get? (here ++ parts) = none := by
  induction parts generalizing here with
  | nil => cases hw
  | cons part rest ih =>
    rw [List.mem_cons, not_or] at hup
    rw [walk] at hw
    split at hw
    · next hnone => exact hd.get?_append hnone _
    · cases hw
    · split at hw
      · cases hw
      · rw [if_neg (Ne.symm hup.1)] at hw
        split at hw
        · cases hw
        · have hrest := ih hw hup.2
          rwa [List.append_assoc] at hrest

theorem parts_of_endsInName {p : Path} (h : endsInName p = true) :
    p.parts = p.parent.parts ++ [p.name] ∧ p.name ≠ ".." := by
  unfold endsInName at h
  cases hlast : p.parts.getLast? with
  | none => simp [hlast] at h
  | some part =>
    have hname : p.name = part := by rw [Path.name, hlast]; rfl
    obtain ⟨r, hr⟩ := List.getLast?_eq_some_iff.mp hlast
    constructor
    · rw [hname, Path.parent, hr, List.dropLast_concat]
    · simpa [hname, hlast] using h

/-- In a tree of files, only the path of a directory does not end in a name. -/
theorem endsInName_of_locate {d : Disk} (hd : d.WellFormed) {p : Path} {l : Loc}
    (hl : d.locate p = .ok l) (hdir : ∀ m, d.get? l ≠ some (.dir m)) : endsInName p = true := by
  have hwalk := (locate_eq_ok_iff.mp hl).2.2
  rcases List.eq_nil_or_concat p.parts with hp | ⟨r, part, hp⟩
  · rw [hp, walk, Except.ok.injEq] at hwalk
    by_cases ha : p.isAbsolute = true
    · rw [if_pos ha] at hwalk
      obtain ⟨m, hm⟩ := hd.top
      exact absurd (hwalk ▸ hm) (hdir m)
    · rw [if_neg ha] at hwalk
      obtain ⟨m, hm⟩ := hd.cwd
      exact absurd (hwalk ▸ hm) (hdir m)
  · rw [List.concat_eq_append] at hp
    by_cases hpart : part = ".."
    · rw [hp, walk_append] at hwalk
      obtain ⟨mid, -, hmid⟩ := hwalk
      obtain ⟨⟨m, hm, -⟩, -, hend⟩ := walk_cons.mp hmid
      rw [walk, Except.ok.injEq, Loc.follow, if_pos hpart] at hend
      obtain ⟨m', hm'⟩ := hd.parent mid _ hm
      exact absurd (hend ▸ hm') (hdir m')
    · simp [endsInName, hp, hpart]

theorem utf8ByteSize_text_parent (p : Path) :
    p.parent.text.utf8ByteSize ≤ max 1 p.text.utf8ByteSize := by
  obtain ⟨root, parts⟩ := p
  rcases List.eq_nil_or_concat parts with rfl | ⟨r, part, rfl⟩
  · exact Nat.le_max_right _ _
  · rw [List.concat_eq_append]
    have htext : (Path.mk root (r ++ [part])).text = root.text ++ "/".intercalate (r ++ [part]) := by
      simp [Path.text]
    rw [htext, Path.parent, List.dropLast_concat, Path.text]
    by_cases hr : r = []
    · split
      · exact Nat.le_max_left _ _
      · simp only [hr, List.nil_append, String.intercalate_nil, String.intercalate_singleton,
          String.utf8ByteSize_append, String.utf8ByteSize_empty]
        omega
    · rw [if_neg (by simp [hr]), String.intercalate_append_of_ne_nil hr (by simp)]
      simp only [String.utf8ByteSize_append]
      omega

/-- The way to a name leads through the directory that holds it. -/
theorem locate_parent {d : Disk} {p : Path} {l : Loc} (hp : endsInName p = true)
    (hl : d.locate p = .ok l) :
    d.locate p.parent = .ok l.dropLast ∧ l = l.dropLast ++ [p.name] ∧
      ∃ m, d.get? l.dropLast = some (.dir m) ∧ Access.search.allowed l.dropLast m = true := by
  obtain ⟨hparts, hname⟩ := parts_of_endsInName hp
  obtain ⟨hnul, htext, hwalk⟩ := locate_eq_ok_iff.mp hl
  rw [hparts, walk_append] at hwalk
  obtain ⟨mid, hmid, hlast⟩ := hwalk
  obtain ⟨hdir, -, hend⟩ := walk_cons.mp hlast
  rw [walk, Except.ok.injEq, Loc.follow, if_neg hname] at hend
  subst hend
  have hpnul : p.parent.hasNul = false := by
    rw [Path.hasNul, hparts, List.any_append, Bool.or_eq_false_iff] at hnul
    exact hnul.1
  have hptext : p.parent.text.utf8ByteSize ≤ maxPath := by
    have := utf8ByteSize_text_parent p
    have : 1 ≤ maxPath := by decide
    omega
  rw [List.dropLast_concat]
  exact ⟨locate_eq_ok_iff.mpr ⟨hpnul, hptext, hmid⟩, rfl, hdir⟩

end Disk

end BoxWarden
