import BoxWarden.Proofs.CommandLine.PathCheck
import BoxWarden.Proofs.Disk.Beside

/-!
What is left of the log in the tree. Opening it can make its file and the directories on the way to
it, and does nothing else; it does the same whatever the application is asked for.
-/

namespace BoxWarden.CommandLine

open Session
open Disk (Beside)

variable {env : Environment} {i : Invocation} {w w₁ : World} {d e : Disk} {l : Loc} {dir : Path}

/-- A place of the log: the one of its file, or of a directory on the way to it. -/
def IsLogPlace (env : Environment) (d : Disk) (l : Loc) : Prop :=
  ∃ dir, env.stateDir = .ok dir ∧ (l = d.place (dir.child logName) ∨
    ∃ parts, parts <+: dir.parts ∧ l = d.place ⟨dir.root, parts⟩)

/-- A directory that is made for the log. -/
def IsLogDir (dir : Path) (d : Disk) (l : Loc) : Prop :=
  d.get? l = none ∧ ∃ parts, parts <+: dir.parts ∧ l = d.place ⟨dir.root, parts⟩

/-- The log can be opened in a tree, which is another one then. -/
def LogOpens (dir : Path) (d e : Disk) : Prop :=
  ∃ d₁, (DiskM.makeDirs dir 0o777 true).run d = (.ok (), d₁) ∧
    d₁.append (dir.child logName) ByteArray.empty = .ok e

theorem logOpens_of_openLog (h : (openLog env i).run w = (.ok (), w₁)) :
    ∃ dir, env.stateDir = .ok dir ∧ LogOpens dir w.disk w₁.disk := by
  obtain ⟨dir, d, d', entry, hdir, hmake, happend, rfl⟩ := exists_of_openLog h
  refine ⟨dir, hdir, d, hmake, ?_⟩
  rw [World.disk_noted]
  exact happend

/-- The log opens for any request or for none. -/
theorem LogOpens.exists_openLog (h : LogOpens dir w.disk e) (hdir : env.stateDir = .ok dir)
    (i : Invocation) : ∃ w₁, (openLog env i).run w = (.ok (), w₁) ∧ w₁.disk = e := by
  obtain ⟨d₁, hmake, happend⟩ := h
  have hstate : (require env.stateDir).run w = (.ok dir, w) := by rw [run_require, hdir]
  have hdirs : (onDisk (DiskM.makeDirs dir 0o777 true)).run w =
      (.ok (), { w with disk := d₁ }) := by
    rw [Store.run_onDisk_eq, hmake]
  have hfile : (onDisk (DiskM.change (·.append (dir.child logName) ByteArray.empty))).run
      { w with disk := d₁ } = (.ok (), { w with disk := e }) := by
    rw [Store.run_onDisk_eq, DiskM.run_change, happend]
  refine ⟨_, (run_bind_ok hstate _).trans ((run_bind_ok hdirs _).trans ((run_bind_ok hfile _).trans
    ((run_bind_ok (run_modify _ _) _).trans (run_log _ _ _ _)))), ?_⟩
  rw [World.disk_noted]

/-- What is new is the file and the directories that it needs. -/
theorem LogOpens.beside (h : LogOpens dir d e) :
    Beside (IsLogDir dir d) (d.place (dir.child logName)) d e := by
  obtain ⟨d₁, hmake, happend⟩ := h
  have hmade := DiskM.madeFor_makeDirs dir 0o777 true d
  rw [hmake] at hmade
  obtain ⟨-, hnoDir, m, c, rfl⟩ := Disk.put_of_append happend
  rw [hmade.grown.dirsIn.place] at hnoDir ⊢
  refine ⟨hmade.grown.cwd, fun l n hl hn => ?_, fun l hl hn => ?_, fun m hm => ?_, ?_⟩
  · rw [Disk.get?_put_of_ne d₁ _ (Ne.symm hl)]
    exact hmade.grown.kept l n hn
  · rw [Disk.get?_put_of_ne d₁ _ (Ne.symm hl)]
    refine Decidable.or_iff_not_imp_left.mpr fun hne => ?_
    rw [← hn] at hne
    obtain ⟨rfl, hdir⟩ | ⟨parts, hparts, -, rfl, hdir⟩ := hmade.new l hne
    · exact ⟨⟨hn, dir.parts, List.prefix_refl _, rfl⟩, hdir⟩
    · exact ⟨⟨hn, parts, hparts, rfl⟩, hdir⟩
  · exact hnoDir m (hmade.grown.kept _ _ hm)
  · rw [Disk.get?_put_self]
    simp

/-- Outside the places of the log, two trees that only the log tells apart are the same. -/
theorem get?_of_beside {d₀ : Disk} (hdir : env.stateDir = .ok dir)
    (h : Beside (IsLogDir dir d₀) (d₀.place (dir.child logName)) d e) (hl : ¬ IsLogPlace env d₀ l) :
    e.get? l = d.get? l := by
  have hfile : l ≠ d₀.place (dir.child logName) := fun heq => hl ⟨dir, hdir, .inl heq⟩
  cases hget : d.get? l with
  | none => exact h.get?_eq_none (fun hnew => hl ⟨dir, hdir, .inr hnew.2⟩) hfile hget
  | some n => exact h.kept l n hfile hget

/-- All directories are kept, and outside the places of the log all is as it was. -/
structure ButLog (env : Environment) (d d' : Disk) : Prop where
  dirsIn : d.DirsIn d'
  elsewhere : ∀ l, ¬ IsLogPlace env d l → d'.get? l = d.get? l

theorem butLog_openLog (h : (openLog env i).run w = (.ok (), w₁)) : ButLog env w.disk w₁.disk := by
  obtain ⟨dir, hdir, hopens⟩ := logOpens_of_openLog h
  exact ⟨hopens.beside.dirsIn, fun l hl => get?_of_beside hdir hopens.beside hl⟩

end BoxWarden.CommandLine
