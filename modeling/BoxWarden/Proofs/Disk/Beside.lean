import BoxWarden.Proofs.Disk.Parents
import BoxWarden.Proofs.Disk.Replacement

/-!
Two trees of which one has more: directories that somebody else has made, and a file of somebody
else's. What is done elsewhere in both of them goes the same way, and leaves the same difference.
-/

namespace BoxWarden

namespace Disk

/-- The second tree is the first with new directories, all of them at the given places, and with a
file at one place that counts for nothing. -/
structure Beside (new : Loc → Prop) (file : Loc) (d e : Disk) : Prop where
  cwd : e.cwd = d.cwd
  kept : ∀ l n, l ≠ file → d.get? l = some n → e.get? l = some n
  made : ∀ l, l ≠ file → d.get? l = none →
    e.get? l = none ∨ new l ∧ e.get? l = some (.dir dirMode)
  noDir : ∀ m, d.get? file ≠ some (.dir m)
  there : e.get? file ≠ none

variable {new : Loc → Prop} {file l : Loc} {d d' e e' : Disk} {p : Path}

theorem Beside.dirsIn (h : Beside new file d e) : DirsIn d e := by
  refine ⟨h.cwd, fun l m hl => h.kept l _ ?_ hl⟩
  rintro rfl
  exact h.noDir m hl

/-- What was nowhere and is not made anew is nowhere. -/
theorem Beside.get?_eq_none (h : Beside new file d e) (hnew : ¬ new l) (hfile : l ≠ file)
    (hl : d.get? l = none) : e.get? l = none := by
  rcases h.made l hfile hl with hnone | ⟨hmade, -⟩
  · exact hnone
  · exact absurd hmade hnew

/-- A change at another place, to the same in both trees, leaves the difference. -/
theorem Beside.of_sameBut (h : Beside new file d e) (hl : l ≠ file) (hd : SameBut l d d')
    (he : SameBut l e e') {n : Node} (hnd : d'.get? l = some n) (hne : e'.get? l = some n) :
    Beside new file d' e' := by
  refine ⟨?_, fun k m hk hkd => ?_, fun k hk hkd => ?_, ?_, ?_⟩
  · rw [he.cwd, hd.cwd, h.cwd]
  · by_cases hkl : k = l
    · subst hkl
      rw [hne, ← hnd, hkd]
    · rw [hd.get? k hkl] at hkd
      rw [he.get? k hkl]
      exact h.kept k m hk hkd
  · have hkl : k ≠ l := by
      rintro rfl
      rw [hnd] at hkd
      cases hkd
    rw [hd.get? k hkl] at hkd
    rw [he.get? k hkl]
    exact h.made k hk hkd
  · rw [hd.get? file (Ne.symm hl)]
    exact h.noDir
  · rw [he.get? file (Ne.symm hl)]
    exact h.there

theorem Beside.put (h : Beside new file d e) (hl : l ≠ file) (n : Node) :
    Beside new file (d.put l n) (e.put l n) :=
  h.of_sameBut hl (sameBut_put d l n) (sameBut_put e l n) (get?_put_self d l n)
    (get?_put_self e l n)

/-- A directory that is new in the second tree may come to the first, too. -/
theorem Beside.put_left (h : Beside new file d e) (hl : l ≠ file) {n : Node}
    (hn : e.get? l = some n) : Beside new file (d.put l n) e := by
  refine h.of_sameBut hl (sameBut_put d l n) ⟨rfl, fun _ _ => rfl⟩ (get?_put_self d l n) hn

/-- What leads to a directory is one. -/
theorem WellFormed.dir_of_append (hd : d.WellFormed) {rest : Loc} {m : Nat}
    (h : d.get? (l ++ rest) = some (.dir m)) : ∃ m', d.get? l = some (.dir m') := by
  induction rest generalizing l with
  | nil => exact ⟨m, by rwa [List.append_nil] at h⟩
  | cons x rest ih =>
    rw [← List.singleton_append, ← List.append_assoc] at h
    obtain ⟨m', hm'⟩ := ih h
    obtain ⟨m₀, hm₀⟩ := hd.parent _ _ hm'
    rw [List.dropLast_concat] at hm₀
    exact ⟨m₀, hm₀⟩

/-- A way down through directories that both trees have is open or closed in both of them. -/
theorem DirsIn.walk_eq (h : DirsIn d e) (hd : d.WellFormed) {here : Loc} {parts : List String}
    {m : Nat} (hup : ".." ∉ parts) (hm : d.get? (here ++ parts.dropLast) = some (.dir m)) :
    e.walk here parts = d.walk here parts := by
  induction parts generalizing here with
  | nil => rfl
  | cons part rest ih =>
    rw [List.mem_cons, not_or] at hup
    obtain ⟨m₀, hhere⟩ := hd.dir_of_append hm
    have hrest : e.walk (here ++ [part]) rest = d.walk (here ++ [part]) rest := by
      cases rest with
      | nil => rfl
      | cons next rest => exact ih hup.2 (by simpa using hm)
    simp only [Disk.walk, hhere, h.dirs _ _ hhere, if_neg (Ne.symm hup.1), hrest]

theorem DirsIn.locate_eq (h : DirsIn d e) (hd : d.WellFormed) {m : Nat} (hup : ".." ∉ l)
    (hm : d.get? l.dropLast = some (.dir m)) : e.locate ⟨.slash, l⟩ = d.locate ⟨.slash, l⟩ := by
  have habs : (⟨.slash, l⟩ : Path).isAbsolute = true := rfl
  have hwalk : e.walk [] l = d.walk [] l := h.walk_eq hd hup hm
  simp only [Disk.locate, habs, if_true, hwalk]

/-- Both trees ask the same of a directory that is in both of them. -/
theorem DirsIn.checkDirOf_eq (h : DirsIn d e) {m : Nat} (hm : d.get? l.dropLast = some (.dir m)) :
    e.checkDirOf l = d.checkDirOf l := by
  rw [checkDirOf, checkDirOf, hm, h.dirs _ _ hm]

end Disk

namespace DiskM

open Disk (Beside)

variable {new : Loc → Prop} {file : Loc} {d d' e : Disk} {p : Path}

/-- A directory that is made in the first tree is made in the second, or there already. -/
theorem beside_makeDirHere (h : Beside new file d e) (hfile : d.place p ≠ file)
    (hrun : (makeDirHere p 0o777 true).run d = (.ok (), d')) :
    ∃ e', (makeDirHere p 0o777 true).run e = (.ok (), e') ∧ Beside new file d' e' := by
  rw [run_makeDirHere] at hrun
  cases hm : d.makeDir p 0o777 with
  | ok d₁ =>
    rw [hm] at hrun
    obtain ⟨-, rfl⟩ := Prod.mk.inj hrun
    obtain ⟨hl, hnone, hcheck, rfl⟩ := Disk.create_eq_ok_iff.mp hm
    have hl' := h.dirsIn.locate hl
    rcases h.made _ hfile hnone with hnone' | ⟨-, hdir⟩
    · have hplace := h.dirsIn.place p
      obtain ⟨m, hparent, hwrite⟩ := Disk.checkDirOf_eq_ok_iff.mp hcheck
      have hm' : e.makeDir p 0o777 = .ok (e.put (d.place p) (.dir (Disk.newMode 0o777))) := by
        refine Disk.create_eq_ok_iff.mpr ⟨hplace ▸ hl', hplace ▸ hnone', ?_, by rw [hplace]⟩
        rw [hplace]
        exact Disk.checkDirOf_eq_ok_iff.mpr ⟨m, h.dirsIn.dirs _ _ hparent, hwrite⟩
      refine ⟨_, ?_, h.put hfile (.dir (Disk.newMode 0o777))⟩
      rw [run_makeDirHere, hm']
    · have hstat := Disk.stat_of_locate hl' hdir
      exact ⟨e, (makeDirHere_of_dir hstat 0o777).2, h.put_left hfile hdir⟩
  | error err =>
    rw [hm] at hrun
    cases hh : d.holdsDir p with
    | error e' =>
      rw [hh] at hrun
      cases hrun
    | ok there =>
      rw [hh] at hrun
      obtain ⟨hthere, rfl⟩ := Prod.mk.inj hrun
      cases there with
      | false => simp at hthere
      | true =>
        obtain ⟨m, hstat⟩ := Disk.stat_of_holdsDir hh
        obtain ⟨hl, hm'⟩ := Disk.locate_of_stat hstat
        have hstat' := Disk.stat_of_locate (h.dirsIn.locate hl) (h.dirsIn.dirs _ _ hm')
        exact ⟨e, (makeDirHere_of_dir hstat' 0o777).2, h⟩

/-- A directory and its parents that are made in the first tree are made in the second, if their way
does not lead over the file. The induction is on the path from its end; in the second tree there may
be less to make. -/
theorem beside_makeDirs (h : Beside new file d e) (he : e.WellFormed)
    (hway : ∀ parts, parts <+: p.parts → d.place ⟨p.root, parts⟩ ≠ file)
    (hrun : (makeDirs p 0o777 true).run d = (.ok (), d')) :
    ∃ e', (makeDirs p 0o777 true).run e = (.ok (), e') ∧ Beside new file d' e' := by
  have key (up : List String) (d' : Disk) (hup : up.reverse <+: p.parts)
      (hrun : (makeDirs ⟨p.root, up.reverse⟩ 0o777 true).run d = (.ok (), d')) :
      ∃ e', (makeDirs ⟨p.root, up.reverse⟩ 0o777 true).run e = (.ok (), e') ∧
        Beside new file d' e' := by
    induction up generalizing d' with
    | nil => exact beside_makeDirHere h (hway _ hup) hrun
    | cons part up ih =>
      have hchild : (⟨p.root, (part :: up).reverse⟩ : Path) =
          Path.child ⟨p.root, up.reverse⟩ part := by simp [Path.child]
      have hplace := hway _ hup
      rw [hchild] at hrun hplace ⊢
      obtain ⟨d₁, hparent, hlast⟩ := exists_of_makeDirs_child hrun
      have hpre : up.reverse <+: (part :: up).reverse := by simp
      obtain ⟨e₁, hparent', h₁⟩ := ih d₁ (hpre.trans hup) hparent
      have hgrown := grown_makeDirs ⟨p.root, up.reverse⟩ 0o777 true d
      rw [hparent] at hgrown
      rw [← hgrown.dirsIn.place] at hplace
      obtain ⟨e', hlast', h'⟩ := beside_makeDirHere h₁ hplace hlast
      have hl := h₁.dirsIn.locate (locate_of_makeDirHere hlast).1
      exact ⟨e', (run_makeDirs_child he hparent' hl).trans hlast', h'⟩
  have hp := key p.parts.reverse d'
  rw [List.reverse_reverse] at hp
  exact hp (List.prefix_refl _) hrun

/-- If no temporary file can be made in the first tree, none can be in the second, for the same
reason. Both try the same name, since the same names are free. -/
theorem beside_makeTemp (h : Disk.DirsIn d e) (hd : d.WellFormed) {m : Nat}
    (hm : d.get? (d.place p.parent) = some (.dir m))
    (hfree : ∀ k, e.get? (tempPlace d p k) = none ↔ d.get? (tempPlace d p k) = none)
    {err : DiskError} (hrun : (makeTemp p).run d = (.error err, d')) :
    (makeTemp p).run e = (.error err, e) := by
  have hplace (k : Nat) : tempPlace e p k = tempPlace d p k := by
    rw [tempPlace, tempPlace, h.place]
  obtain ⟨k, hk, hfirst, hrun₁⟩ := run_makeTemp d p
  obtain ⟨j, hj, hfirst', hrun₂⟩ := run_makeTemp e p
  simp only [hplace, ne_eq, hfree] at hj hfirst' hrun₂
  obtain rfl : j = k := firstFree_unique hj hfirst' hk hfirst
  have hlast : d.get? (tempPlace d p j).dropLast = some (.dir m) := by
    rw [tempPlace, List.dropLast_concat, hm]
  have hnames : ".." ∉ tempPlace d p j := by
    rw [← place_tempPlace hd p j]
    exact Disk.names_place hd _
  have hcreate : e.create ⟨.slash, tempPlace d p j⟩ (.file 0o600 ByteArray.empty) =
      .error err := by
    rw [hrun₁] at hrun
    simp only [Disk.create, h.locate_eq hd hnames hlast] at hrun ⊢
    cases hl : d.locate ⟨.slash, tempPlace d p j⟩ with
    | error err' =>
      rw [hl] at hrun
      cases hrun
      rfl
    | ok l =>
      obtain rfl := (Disk.place_of_locate hl).trans (place_tempPlace hd p j)
      simp only [hl, bind, Except.bind, hk, (hfree j).mpr hk, h.checkDirOf_eq hlast] at hrun ⊢
      cases hcheck : d.checkDirOf (tempPlace d p j) with
      | error err' =>
        rw [hcheck] at hrun
        cases hrun
        rfl
      | ok u =>
        rw [hcheck] at hrun
        cases hrun
  rw [hrun₂, hcreate]

end DiskM

end BoxWarden
