import BoxWarden.Proofs.Disk.Place
import BoxWarden.Proofs.Run

/-!
What changes of the tree do to it: which place they touch, what stands there afterwards, and that a
refused change touches nothing.
-/

namespace BoxWarden

namespace Disk

/-- The trees differ at one place at most. -/
structure SameBut (l : Loc) (d d' : Disk) : Prop where
  cwd : d'.cwd = d.cwd
  get? : ∀ k, k ≠ l → d'.get? k = d.get? k

theorem SameBut.trans {l : Loc} {a b c : Disk} (hab : SameBut l a b) (hbc : SameBut l b c) :
    SameBut l a c :=
  ⟨hbc.cwd.trans hab.cwd, fun k hk => (hbc.get? k hk).trans (hab.get? k hk)⟩

theorem SameBut.symm {l : Loc} {d d' : Disk} (h : SameBut l d d') : SameBut l d' d :=
  ⟨h.cwd.symm, fun k hk => (h.get? k hk).symm⟩

theorem sameBut_put (d : Disk) (l : Loc) (n : Node) : SameBut l d (d.put l n) :=
  ⟨rfl, fun _ hk => get?_put_of_ne d n (Ne.symm hk)⟩

/-- The last node that is put at a place counts. -/
theorem put_put (d : Disk) (l : Loc) (n m : Node) : (d.put l n).put l m = d.put l m := by
  have key (es : List (Loc × Node)) : putNode l m (putNode l n es) = putNode l m es := by
    induction es with
    | nil => simp [putNode]
    | cons e r ih => by_cases h : e.1 = l <;> simp [putNode, h, ih]
  rw [put, put, put, key]

/-- A node that is put where none was, and taken away again, leaves no trace. -/
theorem remove_put_of_none {d : Disk} {l : Loc} (h : d.get? l = none) (n : Node) :
    (d.put l n).remove l = d := by
  have key {es : List (Loc × Node)} (hes : nodeAt l es = none) :
      (putNode l n es).filter (·.1 ≠ l) = es := by
    induction es with
    | nil => simp [putNode]
    | cons e r ih =>
      rw [nodeAt] at hes
      by_cases he : e.1 = l
      · simp [he] at hes
      · rw [if_neg he] at hes
        simpa [putNode, he] using ih hes
  rw [remove, put, key h]

/-- The trees have the same nodes everywhere. -/
structure Same (d d' : Disk) : Prop where
  cwd : d'.cwd = d.cwd
  get? : ∀ k, d'.get? k = d.get? k

theorem Same.refl (d : Disk) : Same d d := ⟨rfl, fun _ => rfl⟩

theorem SameBut.same {l : Loc} {d d' : Disk} (h : SameBut l d d') (hl : d'.get? l = d.get? l) :
    Same d d' := by
  refine ⟨h.cwd, fun k => ?_⟩
  by_cases hk : k = l
  · rw [hk, hl]
  · exact h.get? k hk

/-- Where no directory stood, a change of one place keeps all directories. -/
theorem SameBut.dirsIn {l : Loc} {d d' : Disk} (h : SameBut l d d')
    (hl : ∀ m, d.get? l ≠ some (.dir m)) : DirsIn d d' := by
  refine ⟨h.cwd, fun k m hk => ?_⟩
  have hkl : k ≠ l := by
    rintro rfl
    exact hl m hk
  rw [h.get? k hkl, hk]

/-- Nothing is lost, and only directories are new. -/
structure Grown (d d' : Disk) : Prop where
  cwd : d'.cwd = d.cwd
  kept : ∀ l n, d.get? l = some n → d'.get? l = some n
  new : ∀ l, d.get? l = none → ∀ m c, d'.get? l ≠ some (.file m c)

theorem Grown.refl (d : Disk) : Grown d d := by
  refine ⟨rfl, fun _ _ h => h, fun l h m c => ?_⟩
  rw [h]
  simp

theorem Grown.dirsIn {d d' : Disk} (h : Grown d d') : DirsIn d d' :=
  ⟨h.cwd, fun l _ hl => h.kept l _ hl⟩

theorem Grown.trans {a b c : Disk} (hab : Grown a b) (hbc : Grown b c) : Grown a c := by
  refine ⟨hbc.cwd.trans hab.cwd, fun l n h => hbc.kept l n (hab.kept l n h), fun l h m x hx => ?_⟩
  cases hb : b.get? l with
  | none => exact hbc.new l hb m x hx
  | some n =>
    have hc := hbc.kept l n hb
    rw [hc] at hx
    cases n with
    | dir m' => simp at hx
    | file m' x' => exact hab.new l h m' x' hb

/-- The file at a place: its permission bits and its content. -/
def file? (d : Disk) (l : Loc) : Option (Nat × ByteArray) :=
  match d.get? l with
  | some (.file m c) => some (m, c)
  | _ => none

theorem file?_eq_some_iff {d : Disk} {l : Loc} {m : Nat} {c : ByteArray} :
    d.file? l = some (m, c) ↔ d.get? l = some (.file m c) := by
  unfold file?
  cases d.get? l with
  | none => simp
  | some n => cases n <;> simp

theorem file?_of_get? {d d' : Disk} {l : Loc} (h : d'.get? l = d.get? l) : d'.file? l = d.file? l := by
  rw [file?, file?, h]

/-- New directories are no files. -/
theorem Grown.file? {d d' : Disk} (h : Grown d d') (l : Loc) : d'.file? l = d.file? l := by
  cases hl : d.get? l with
  | some n => exact file?_of_get? ((h.kept l n hl).trans hl.symm)
  | none =>
    unfold Disk.file?
    rw [hl]
    cases hl' : d'.get? l with
    | none => rfl
    | some n =>
      cases n with
      | dir m => rfl
      | file m c => exact absurd hl' (h.new l hl m c)

/-- A new node is put where its path leads, if nothing is there and the directory takes it. -/
theorem create_eq_ok_iff {d d' : Disk} {p : Path} {n : Node} :
    d.create p n = .ok d' ↔ d.locate p = .ok (d.place p) ∧ d.get? (d.place p) = none ∧
      d.checkDirOf (d.place p) = .ok () ∧ d' = d.put (d.place p) n := by
  unfold create
  cases hl : d.locate p with
  | error e => simp [bind, Except.bind]
  | ok l =>
    have hp := place_of_locate hl
    subst hp
    simp only [bind, Except.bind]
    cases hg : d.get? (d.place p) with
    | some m => simp
    | none => cases hc : d.checkDirOf (d.place p) <;> simp [eq_comm]

theorem checkDirOf_eq_ok_iff {d : Disk} {l : Loc} :
    d.checkDirOf l = .ok () ↔
      ∃ m, d.get? l.dropLast = some (.dir m) ∧ Access.write.allowed l.dropLast m = true := by
  unfold checkDirOf
  cases hg : d.get? l.dropLast with
  | none => simp
  | some n =>
    cases n with
    | file m c => simp
    | dir m => cases hm : Access.write.allowed l.dropLast m <;> simp [hm]

theorem grown_of_makeDir {d d' : Disk} {p : Path} {mode : Nat} (h : d.makeDir p mode = .ok d') :
    Grown d d' := by
  obtain ⟨-, hnone, -, rfl⟩ := create_eq_ok_iff.mp h
  refine ⟨rfl, fun l n hl => ?_, fun l hl m c => ?_⟩
  · have hne : d.place p ≠ l := by
      rintro rfl
      simp [hnone] at hl
    rw [get?_put_of_ne d _ hne, hl]
  · by_cases hne : d.place p = l
    · subst hne
      simp
    · rw [get?_put_of_ne d _ hne, hl]
      simp

/-- A file that is moved leaves nothing behind and stands where the path leads. -/
theorem move_eq_ok_iff {d d' : Disk} {source : Loc} {p : Path} :
    d.move source p = .ok d' ↔ d.locate p = .ok (d.place p) ∧ endsInName p = true ∧
      d.checkDirOf (d.place p) = .ok () ∧ (∀ m, d.get? (d.place p) ≠ some (.dir m)) ∧
        ∃ n, d.get? source = some n ∧ d' = (d.remove source).put (d.place p) n := by
  unfold move
  cases hl : d.locate p with
  | error e => simp [bind, Except.bind]
  | ok l =>
    have hp := place_of_locate hl
    subst hp
    cases he : endsInName p with
    | false => simp [bind, Except.bind]
    | true =>
      cases hc : d.checkDirOf (d.place p) with
      | error e => simp [hc, bind, Except.bind]
      | ok u =>
        simp only [Bool.not_true, Bool.false_eq_true, if_false, bind, Except.bind, hc]
        cases hg : d.get? (d.place p) with
        | none => cases d.get? source <;> simp [eq_comm]
        | some n =>
          cases n with
          | dir m => simp
          | file m c => cases d.get? source <;> simp [eq_comm]

/-- A place follows from places, so it holds no step back. -/
theorem names_place {d : Disk} (hd : d.WellFormed) (p : Path) : ".." ∉ d.place p := by
  have key (parts : List String) (here : Loc) (h : ".." ∉ here) :
      ".." ∉ parts.foldl Loc.follow here := by
    induction parts generalizing here with
    | nil => exact h
    | cons part rest ih =>
      refine ih _ ?_
      unfold Loc.follow
      split
      · intro hm
        exact h (List.dropLast_subset _ hm)
      · next hpart => simp [h, Ne.symm hpart]
  rw [place_eq]
  refine key _ _ ?_
  split
  · simp
  · obtain ⟨m, hm⟩ := hd.cwd
    exact hd.names _ _ hm

/-- A tree stays one when a place in one of its directories, which is none itself, changes. -/
theorem WellFormed.of_sameBut {d d' : Disk} {l : Loc} (hd : d.WellFormed) (h : SameBut l d d')
    (hdir : ∀ m, d.get? l ≠ some (.dir m)) (hparent : ∃ m, d.get? l.dropLast = some (.dir m))
    (hnames : ".." ∉ l) : d'.WellFormed := by
  have hdirs : DirsIn d d' := h.dirsIn hdir
  refine ⟨?_, fun k n hk => ?_, fun k n hk => ?_⟩
  · obtain ⟨m, hm⟩ := hd.cwd
    exact ⟨m, h.cwd ▸ hdirs.dirs _ _ hm⟩
  · by_cases hkl : k = l
    · subst hkl
      obtain ⟨m, hm⟩ := hparent
      exact ⟨m, hdirs.dirs _ _ hm⟩
    · rw [h.get? k hkl] at hk
      obtain ⟨m, hm⟩ := hd.parent k n hk
      exact ⟨m, hdirs.dirs _ _ hm⟩
  · by_cases hkl : k = l
    · subst hkl
      exact hnames
    · rw [h.get? k hkl] at hk
      exact hd.names k n hk

theorem WellFormed.of_same {d d' : Disk} (hd : d.WellFormed) (h : Same d d') : d'.WellFormed := by
  refine ⟨?_, fun k n hk => ?_, fun k n hk => hd.names k n (h.get? k ▸ hk)⟩
  · rw [h.cwd, h.get?]
    exact hd.cwd
  · rw [h.get?]
    exact hd.parent k n (h.get? k ▸ hk)

theorem WellFormed.create {d d' : Disk} (hd : d.WellFormed) {p : Path} {n : Node}
    (h : d.create p n = .ok d') : d'.WellFormed := by
  obtain ⟨-, hnone, hcheck, rfl⟩ := create_eq_ok_iff.mp h
  obtain ⟨m, hm, -⟩ := checkDirOf_eq_ok_iff.mp hcheck
  exact hd.of_sameBut (sameBut_put d _ n) (by simp [hnone]) ⟨m, hm⟩ (names_place hd p)

end Disk

end BoxWarden
