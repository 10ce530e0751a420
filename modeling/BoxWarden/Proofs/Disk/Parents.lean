import BoxWarden.Proofs.Disk.Content
import BoxWarden.Proofs.Disk.Directories
import BoxWarden.Proofs.Path

/-!
A directory once it has been made with the parents it lacked: it is there, the way to it is open,
and what is made in it is made right there. So making one with its parents is making the parent and
then the directory itself, whatever was there before.
-/

namespace BoxWarden

namespace Disk

variable {d : Disk} {p : Path} {part : String} {l : Loc}

theorem stat_of_holdsDir (h : d.holdsDir p = .ok true) : ∃ m, d.stat p = .ok (.dir m) := by
  unfold holdsDir at h
  split at h
  · next n hstat =>
    cases n with
    | dir m => exact ⟨m, hstat⟩
    | file m c => cases h
  all_goals cases h

/-- The way to what is in a directory leads through the directory. -/
theorem stat_of_locate_child (hl : d.locate (p.child part) = .ok l) :
    ∃ m, d.stat p = .ok (.dir m) := by
  obtain ⟨hnul, htext, hwalk⟩ := locate_eq_ok_iff.mp hl
  have habs : (p.child part).isAbsolute = p.isAbsolute := rfl
  rw [habs, Path.child, walk_append] at hwalk
  obtain ⟨mid, hmid, hlast⟩ := hwalk
  obtain ⟨⟨m, hm, -⟩, -⟩ := walk_cons.mp hlast
  have hparent := utf8ByteSize_text_parent (p.child part)
  have hone : 1 ≤ maxPath := by decide
  rw [Path.parent_child] at hparent
  rw [Path.hasNul, Path.child, List.any_append, Bool.or_eq_false_iff] at hnul
  exact ⟨m, stat_of_locate (locate_eq_ok_iff.mpr ⟨hnul.1, by omega, hmid⟩) hm⟩

/-- Nothing is missing where a path leads into a directory. -/
theorem makeDir_child_ne_notFound (hd : d.WellFormed) (hl : d.locate (p.child part) = .ok l)
    (mode : Nat) : d.makeDir (p.child part) mode ≠ .error .notFound := by
  obtain ⟨m, hstat⟩ := stat_of_locate_child hl
  obtain ⟨-, hm⟩ := locate_of_stat hstat
  have hplace : l = (d.place p).follow part := by rw [place_of_locate hl, place_child]
  unfold makeDir create
  cases hg : d.get? l with
  | some n => simp [hl, hg, bind, Except.bind]
  | none =>
    have hparent : l.dropLast = d.place p := by
      rw [hplace, Loc.follow]
      split
      · -- a directory above another is there
        next hup =>
        obtain ⟨m', hm'⟩ := hd.parent _ _ hm
        rw [hplace, Loc.follow, if_pos hup, hm'] at hg
        cases hg
      · exact List.dropLast_concat
    cases hw : Access.write.allowed (d.place p) m <;>
      simp [hl, hg, checkDirOf, hparent, hm, hw, bind, Except.bind]

end Disk

namespace DiskM

variable {d d' : Disk} {p : Path} {mode : Nat} {existing : Bool} {part : String}

/-- Making a directory without its parents succeeds where there is a way to it. -/
theorem locate_of_makeDirHere (h : (makeDirHere p mode existing).run d = (.ok (), d')) :
    d.locate p = .ok (d.place p) ∧ ∃ m, d'.stat p = .ok (.dir m) := by
  rw [run_makeDirHere] at h
  cases hm : d.makeDir p mode with
  | ok d₁ =>
    rw [hm] at h
    obtain ⟨-, rfl⟩ := Prod.mk.inj h
    have hdirs := (Disk.grown_of_makeDir hm).dirsIn
    obtain ⟨hl, -, -, rfl⟩ := Disk.create_eq_ok_iff.mp hm
    exact ⟨hl, _, Disk.stat_of_locate (hdirs.locate hl) (Disk.get?_put_self d _ _)⟩
  | error e =>
    rw [hm] at h
    cases hh : d.holdsDir p with
    | error e' =>
      rw [hh] at h
      cases h
    | ok there =>
      rw [hh] at h
      obtain ⟨hthere, rfl⟩ := Prod.mk.inj h
      -- the refusal is forgiven only if a directory is there
      cases there with
      | false => simp at hthere
      | true =>
        obtain ⟨m, hstat⟩ := Disk.stat_of_holdsDir hh
        exact ⟨(Disk.locate_of_stat hstat).1, m, hstat⟩

theorem run_makeDirs_cons (p : Path) (part : String) (mode : Nat) (existing : Bool) (d : Disk) :
    (makeDirs (p.child part) mode existing).run d = match d.makeDir (p.child part) mode with
      | .error .notFound =>
        (do makeDirs p 0o777 true
            makeDirHere (p.child part) mode existing : DiskM Unit).run d
      | _ => (makeDirHere (p.child part) mode existing).run d := by
  have hreverse : (p.child part).parts.reverse = part :: p.parts.reverse := by simp [Path.child]
  have hp : (⟨p.root, (part :: p.parts.reverse).reverse⟩ : Path) = p.child part := by
    simp [Path.child]
  have hroot : (p.child part).root = p.root := rfl
  rw [makeDirs, hreverse, hroot, run_makeDirsUp_cons, hp]
  rfl

/-- The parent is made first, and the directory itself last. -/
theorem exists_of_makeDirs_child (h : (makeDirs (p.child part) mode existing).run d = (.ok (), d')) :
    ∃ d₁, (makeDirs p 0o777 true).run d = (.ok (), d₁) ∧
      (makeDirHere (p.child part) mode existing).run d₁ = (.ok (), d') := by
  rw [run_makeDirs_cons] at h
  split at h
  · obtain ⟨u, d₁, hparent, hlast⟩ := exists_of_run_bind_ok h
    exact ⟨d₁, hparent, hlast⟩
  · obtain ⟨m, hstat⟩ := Disk.stat_of_locate_child (locate_of_makeDirHere h).1
    exact ⟨d, makeDirs_of_dir hstat 0o777, h⟩

/-- A directory that has been made, or was there, is there. -/
theorem exists_stat_of_makeDirs (h : (makeDirs p mode existing).run d = (.ok (), d')) :
    ∃ m, d'.stat p = .ok (.dir m) := by
  obtain ⟨root, parts⟩ := p
  rcases List.eq_nil_or_concat parts with rfl | ⟨up, part, rfl⟩
  · exact (locate_of_makeDirHere h).2
  · rw [List.concat_eq_append] at h ⊢
    obtain ⟨d₁, -, hlast⟩ := exists_of_makeDirs_child (p := ⟨root, up⟩) h
    exact (locate_of_makeDirHere hlast).2

/-- What is made in a directory is made right there, once the directory is made. -/
theorem run_makeDirs_child {l : Loc} (hd : d.WellFormed)
    (hmake : (makeDirs p 0o777 true).run d = (.ok (), d')) (hl : d'.locate (p.child part) = .ok l) :
    (makeDirs (p.child part) mode existing).run d =
      (makeDirHere (p.child part) mode existing).run d' := by
  have hgrown := grown_makeDirs p 0o777 true d
  rw [hmake] at hgrown
  rw [run_makeDirs_cons]
  rcases hgrown.locate hl with hthere | hmissing
  · -- the directory was there before
    obtain ⟨m, hstat⟩ := Disk.stat_of_locate_child hthere
    obtain rfl : d = d' := (Prod.mk.inj ((makeDirs_of_dir hstat 0o777).symm.trans hmake)).2
    split
    · next hmissing => exact absurd hmissing (Disk.makeDir_child_ne_notFound hd hthere mode)
    · rfl
  · have hcreate : d.makeDir (p.child part) mode = .error .notFound := by
      rw [Disk.makeDir, Disk.create, hmissing]
      rfl
    rw [hcreate]
    exact run_bind_ok hmake _

end DiskM

end BoxWarden
