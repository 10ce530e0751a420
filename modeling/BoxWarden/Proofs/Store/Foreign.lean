import BoxWarden.Proofs.Store.Ledger

/-!
What a series of calls leaves of a file that others have written. The answers tell what was done to
the file; apart from that every line stays as it was and where it was.
-/

namespace BoxWarden.Store

open Disk (FileIs)

/-- What a call has done to the file of grants. -/
inductive Deed
  | created
  | granted (r : Record)
  | revoked (container : String) (kind : Kind)
deriving DecidableEq, Repr

namespace Deed

/-- What the deed makes of the file. -/
def apply : Deed → Option (Nat × String) → Option (Nat × String)
  | created, _ => some (Disk.newMode 0o644, heading)
  | granted r, f => some (withLine r.line f)
  | revoked container kind, f => f.map fun (m, t) => (m &&& 0o777, without container kind t)

/-- When the deed can be done: a file is created only if there is none, and a grant is one line. -/
def Fits : Deed → Option (Nat × String) → Prop
  | created, f => f = none
  | granted r, _ => isContainerName r.container = true ∧ fitsLine r.value = true
  | revoked .., _ => True

/-- Whether the deed takes a line back. -/
def takesLine : Deed → String → Bool
  | revoked container kind, line => grantsOn container kind line
  | _, _ => false

/-- Whether the deed adds a line. -/
def addsLine : Deed → Bool
  | granted _ => true
  | _ => false

end Deed

/-- The deed that an answer tells of, if it tells of one. -/
def deedOf : Call → Except Fault Answer → Option Deed
  | _, .ok (.made true) => some .created
  | _, .ok (.granted r) => some (.granted r)
  | .revoke container kind, .ok (.revoked n) =>
    if n = 0 then none else (Kind.ofName? kind).map (.revoked container)
  | _, _ => none

/-- What a call leaves: a tree of files in which paths lead where they led, and the file of grants
as its answer tells. -/
structure Did (p : Path) (d d' : Disk) (deed : Option Deed) : Prop where
  wellFormed : d'.WellFormed
  place : d'.place p = d.place p
  file : ∀ f, FileIs d (d.place p) f →
    FileIs d' (d.place p) (deed.elim f (·.apply f)) ∧ ∀ x, deed = some x → x.Fits f

variable {s : Store} {w : World} {d d₀ d' : Disk} {p : Path}

/-- Directories that are made, and even a refused replacement, are no deed. -/
theorem Did.of_grown (hd' : d'.WellFormed) (h : Disk.Grown d d') : Did p d d' none :=
  ⟨hd', h.dirsIn.place p, fun _ hf => ⟨hf.of_grown h, by simp⟩⟩

theorem Did.of_same (hd : d.WellFormed) (h : Disk.Same d d') : Did p d d' none :=
  ⟨hd.of_same h, by rw [Disk.place_eq, Disk.place_eq, h.cwd], fun _ hf => ⟨hf.of_same h, by simp⟩⟩

/-- A deed changes the file and nothing else. -/
theorem Did.of_sameBut {x : Deed} (hd' : d'.WellFormed) (hs : Disk.SameBut (d.place p) d d')
    (hfile : ∀ f, FileIs d (d.place p) f → FileIs d' (d.place p) (x.apply f) ∧ x.Fits f) :
    Did p d d' (some x) := by
  refine ⟨hd', ?_, fun f hf => ?_⟩
  · rw [Disk.place_eq, Disk.place_eq, hs.cwd]
  · obtain ⟨hnew, hfits⟩ := hfile f hf
    refine ⟨hnew, fun y hy => ?_⟩
    obtain rfl := Option.some.inj hy
    exact hfits

/-- A deed after directories are made. -/
theorem Did.of_grown_left {x : Deed} (hg : Disk.Grown d d₀) (h : Did p d₀ d' (some x)) :
    Did p d d' (some x) := by
  have hplace := hg.dirsIn.place p
  refine ⟨h.wellFormed, h.place.trans hplace, fun f hf => ?_⟩
  have hf₀ : FileIs d₀ (d₀.place p) f := hplace ▸ hf.of_grown hg
  rw [← hplace]
  exact h.file f hf₀

theorem did_ensure (hd : w.disk.WellFormed) :
    Did s.path w.disk (s.perform w .ensure).2.disk (deedOf .ensure (s.perform w .ensure).1) := by
  have hgrown := DiskM.grown_makeDirs s.path.parent 0o777 true w.disk
  have hd₀ := DiskM.wellFormed_makeDirs s.path.parent 0o777 true hd
  rw [perform, run_ensureExists]
  generalize (DiskM.makeDirs s.path.parent 0o777 true).run w.disk = x at hgrown hd₀
  obtain ⟨e | u, d₀⟩ := x
  · exact Did.of_grown hd₀ hgrown
  · obtain ⟨e, herr⟩ | ⟨d', hok, hd', hs, hnone, -, hfile⟩ :=
      writeNew_step (p := s.path) hd₀ heading 0o644
    · simp only [herr]
      cases e <;> exact Did.of_grown hd₀ hgrown
    · have hdid : Did s.path d₀ d' (some .created) :=
        Did.of_sameBut hd' hs fun f hf => ⟨hfile, hf.not_file hnone⟩
      simp only [hok]
      simpa [Except.map, deedOf] using Did.of_grown_left hgrown hdid

theorem did_grant (hd : w.disk.WellFormed) (container kind value : String) :
    Did s.path w.disk (s.perform w (.grant container kind value)).2.disk
      (deedOf (.grant container kind value) (s.perform w (.grant container kind value)).1) := by
  have hgrown := DiskM.grown_makeDirs s.path.parent 0o777 true w.disk
  have hd₀ := DiskM.wellFormed_makeDirs s.path.parent 0o777 true hd
  rw [perform, run_grant]
  cases hg : grantOf container kind value with
  | error e => exact Did.of_same hd (Disk.Same.refl _)
  | ok r =>
    obtain ⟨-, -, -, hname, hvalue⟩ := grantOf_eq_ok_iff.mp hg
    simp only
    generalize (DiskM.makeDirs s.path.parent 0o777 true).run w.disk = x at hgrown hd₀
    obtain ⟨e | u, d₀⟩ := x
    · exact Did.of_grown hd₀ hgrown
    · obtain ⟨e, herr⟩ | ⟨d', hok, hd', hs, hfile⟩ := appendLine_step (p := s.path) hd₀ r.line
      · simp only [herr]
        exact Did.of_grown hd₀ hgrown
      · have hdid : Did s.path d₀ d' (some (.granted r)) :=
          Did.of_sameBut hd' hs fun f hf => ⟨hfile f hf, hname, hvalue⟩
        simp only [hok]
        simpa [Except.map, deedOf] using Did.of_grown_left hgrown hdid

/-- Whether one of the deeds takes a line back. -/
def taken (deeds : List Deed) (line : String) : Bool := deeds.any (·.takesLine line)

/-- The lines that are left of those that were there: none is changed, but a grant ends the last
one. -/
def kept (deeds : List Deed) (lines : List String) : List String :=
  (lines.filter fun l => !taken deeds l).map
    fun l => if deeds.any (·.addsLine) then endLine l else l

end BoxWarden.Store
