import BoxWarden.Proofs.Disk.Beside
import BoxWarden.Proofs.Store.Foreign

/-!
The store in a tree where somebody else has been at work. As long as that was not on the way to the
file of grants, every call answers as in the tree without it, and does the same. That goes for calls
that fail, too.
-/

namespace BoxWarden.Store

open Disk (Beside)
open Session

variable {new : Loc → Prop} {file : Loc} {s : Store} {d d₀ d' e : Disk} {f : Option String}
  {w v : World} {m : Nat} {c : ByteArray}

/-- The file of a store is there, or there is none and its directory is there or can be made. -/
inductive Placed (s : Store) (d : Disk) : Prop
  | missing {d₀ : Disk} (hd : d.WellFormed)
      (hmake : (DiskM.makeDirs s.path.parent 0o777 true).run d = (.ok (), d₀))
      (hway : Way s d₀) (hnone : d₀.get? (d₀.place s.path) = none)
  | present {m : Nat} {c : ByteArray} (hway : Way s d)
      (hfile : d.get? (d.place s.path) = some (.file m c))

theorem Placed.wellFormed (h : Placed s d) : d.WellFormed := by
  cases h with
  | missing hd => exact hd
  | present hway => exact hway.wellFormed

theorem Holding.placed (h : Holding s d f) : Placed s d := by
  cases h with
  | missing hd hmake hroom hnone => exact .missing hd hmake hroom.toWay hnone
  | present hroom hfile => exact .present hroom.toWay (Disk.fileIs_some_iff.mp hfile)

/-- A file that is made where there is a way to it is there. -/
theorem Way.placed_put (h : Way s d) (m : Nat) (c : ByteArray) :
    Placed s (d.put (d.place s.path) (.file m c)) := by
  have hfile := Disk.get?_put_self d (d.place s.path) (.file m c)
  refine .present (h.of_sameBut (Disk.sameBut_put d _ _) ?_ (by simp [hfile])) hfile
  exact wellFormed_put_file h.wellFormed h.leads h.noDir m c

/-- The directory of the file is one. -/
theorem Way.parent (h : Way s d) : ∃ m, d.get? (d.place s.path.parent) = some (.dir m) ∧
    d.get? (d.place s.path).dropLast = some (.dir m) := by
  obtain ⟨hl, -, m, hm, -⟩ := Disk.locate_parent h.endsInName h.leads
  refine ⟨m, ?_, hm⟩
  rwa [← Disk.place_of_locate hl]

/-- What is read at a path depends on what its place holds alone. -/
theorem textAt_congr {p : Path} {l : Loc} (hd : d.locate p = .ok l) (he : e.locate p = .ok l)
    (hget : e.get? l = d.get? l) : e.textAt p = d.textAt p := by
  simp only [Disk.textAt, Disk.holds, Disk.stat, Disk.readText, Disk.read, hd, he, hget, bind,
    Except.bind]

/-- What is new in a tree is not in the way of a store: its file and the temporary ones beside it
have other places, and the way to it does not lead over the foreign file. -/
structure Apart (new : Loc → Prop) (file : Loc) (s : Store) (d : Disk) : Prop where
  way : ∀ parts, parts <+: s.path.parts → d.place ⟨s.path.root, parts⟩ ≠ file
  free : ¬ new (d.place s.path)
  temp : ∀ k, ¬ new (DiskM.tempPlace d s.path k) ∧ DiskM.tempPlace d s.path k ≠ file

theorem Apart.of_cwd (h : Apart new file s d) (hcwd : d'.cwd = d.cwd) : Apart new file s d' := by
  have hplace (p : Path) : d'.place p = d.place p := by
    rw [Disk.place_eq, Disk.place_eq, hcwd]
  refine ⟨fun parts hparts => ?_, ?_, fun k => ?_⟩
  · rw [hplace]
    exact h.way parts hparts
  · rw [hplace]
    exact h.free
  · rw [DiskM.tempPlace, hplace]
    exact h.temp k

theorem Apart.ne (h : Apart new file s d) : d.place s.path ≠ file :=
  h.way s.path.parts (List.prefix_refl _)

/-- The same stands at the place of the file. -/
theorem Apart.get? (ha : Apart new file s d) (hb : Beside new file d e) :
    e.get? (d.place s.path) = d.get? (d.place s.path) := by
  cases hget : d.get? (d.place s.path) with
  | none => exact hb.get?_eq_none ha.free ha.ne hget
  | some n => exact hb.kept _ n ha.ne hget

/-- The same names are free for temporary files. -/
theorem Apart.free_iff (ha : Apart new file s d) (hb : Beside new file d e) (k : Nat) :
    e.get? (DiskM.tempPlace d s.path k) = none ↔ d.get? (DiskM.tempPlace d s.path k) = none := by
  obtain ⟨hnew, hne⟩ := ha.temp k
  refine ⟨fun hk => ?_, hb.get?_eq_none hnew hne⟩
  cases hget : d.get? (DiskM.tempPlace d s.path k) with
  | none => rfl
  | some n =>
    rw [hb.kept _ n hne hget] at hk
    cases hk

theorem Way.beside (h : Way s d) (ha : Apart new file s d) (hb : Beside new file d e)
    (he : e.WellFormed) : Way s e := by
  have hplace := hb.dirsIn.place s.path
  refine ⟨he, hplace ▸ hb.dirsIn.locate h.leads, ?_⟩
  rw [hplace, ha.get? hb]
  exact h.noDir

theorem Way.checkDirOf_beside (h : Way s d) (hb : Beside new file d e) :
    e.checkDirOf (d.place s.path) = d.checkDirOf (d.place s.path) := by
  obtain ⟨m, -, hm⟩ := h.parent
  exact hb.dirsIn.checkDirOf_eq hm

/-- A store at work in two trees. -/
structure Alongside (new : Loc → Prop) (file : Loc) (s : Store) (d e : Disk) : Prop where
  placed : Placed s d
  apart : Apart new file s d
  beside : Beside new file d e
  wellFormed : e.WellFormed

/-- The directory of a missing file is made in the one tree as in the other. -/
theorem Alongside.exists_makeDirs (h : Alongside new file s d e)
    (hmake : (DiskM.makeDirs s.path.parent 0o777 true).run d = (.ok (), d₀)) (hway : Way s d₀)
    (hnone : d₀.get? (d₀.place s.path) = none) :
    ∃ e₀, (DiskM.makeDirs s.path.parent 0o777 true).run e = (.ok (), e₀) ∧
      Alongside new file s d₀ e₀ ∧ Way s e₀ ∧ e₀.get? (e₀.place s.path) = none := by
  obtain ⟨-, ha, hb, he⟩ := h
  have hup (parts : List String) (hparts : parts <+: s.path.parent.parts) :
      d.place ⟨s.path.parent.root, parts⟩ ≠ file :=
    ha.way parts (hparts.trans (List.dropLast_prefix _))
  obtain ⟨e₀, hmake', hb₀⟩ := DiskM.beside_makeDirs hb he hup hmake
  have hgrown := DiskM.grown_makeDirs s.path.parent 0o777 true d
  have he₀ := DiskM.wellFormed_makeDirs s.path.parent 0o777 true he
  rw [hmake] at hgrown
  rw [hmake'] at he₀
  have ha₀ := ha.of_cwd hgrown.cwd
  refine ⟨e₀, hmake', ⟨.missing hway.wellFormed hway.makeDirs hway hnone, ha₀, hb₀, he₀⟩,
    hway.beside ha₀ hb₀ he₀, ?_⟩
  rw [hb₀.dirsIn.place, ha₀.get? hb₀, hnone]

/-- What is put in the place of the file in both trees leaves the difference between them. -/
theorem Alongside.put (h : Alongside new file s d e) (hway : Way s d) (m : Nat) (c : ByteArray) :
    Alongside new file s (d.put (d.place s.path) (.file m c))
      (e.put (d.place s.path) (.file m c)) := by
  have hway' := hway.beside h.apart h.beside h.wellFormed
  have he := wellFormed_put_file h.wellFormed hway'.leads hway'.noDir m c
  rw [h.beside.dirsIn.place] at he
  exact ⟨hway.placed_put m c, h.apart.of_cwd rfl, h.beside.put h.apart.ne _, he⟩

/-- What is read of the file is the same in both trees. -/
theorem Alongside.textAt (h : Alongside new file s d e) : e.textAt s.path = d.textAt s.path := by
  cases h.placed with
  | missing hd hmake hway hnone =>
    obtain ⟨e₀, hmake', -, hway', hnone'⟩ := h.exists_makeDirs hmake hway hnone
    rw [hway.textAt_of_missing hmake hnone, hway'.textAt_of_missing hmake' hnone']
  | present hway =>
    exact textAt_congr hway.leads (h.beside.dirsIn.locate hway.leads) (h.apart.get? h.beside)

/-- The content of the file is replaced in both trees or, for the same reason, in none. -/
theorem Alongside.replace (h : Alongside new file s d e) (hway : Way s d)
    (hfile : d.get? (d.place s.path) = some (.file m c)) (text : String) :
    (∃ err, (DiskM.replace s.path text).run d = (.error err, d) ∧
        (DiskM.replace s.path text).run e = (.error err, e)) ∨
      ∃ d' e', (DiskM.replace s.path text).run d = (.ok (), d') ∧
        (DiskM.replace s.path text).run e = (.ok (), e') ∧ Alongside new file s d' e' := by
  obtain ⟨-, ha, hb, he⟩ := h
  have hplace := hb.dirsIn.place s.path
  have hway' := hway.beside ha hb he
  have hfile' : e.get? (e.place s.path) = some (.file m c) := by rw [hplace, ha.get? hb, hfile]
  by_cases htemp : DiskM.TakesTemp d s.path
  · have htemp' := htemp.of_dirsIn hway.wellFormed he hb.dirsIn (ha.free_iff hb)
    obtain ⟨d', hrun⟩ :=
      DiskM.replace_of_takesTemp hway.wellFormed hway.leads hfile htemp text
    obtain ⟨e', hrun'⟩ := DiskM.replace_of_takesTemp he hway'.leads hfile' htemp' text
    obtain ⟨hd', hs, hnew⟩ := replace_ok hway.wellFormed hway.leads hfile hrun
    obtain ⟨he', hs', hnew'⟩ := replace_ok he hway'.leads hfile' hrun'
    rw [hplace] at hs' hnew'
    have hget := Disk.fileIs_some_iff.mp hnew
    have hplaced : Placed s d' := by
      rw [← hway.place_of_sameBut hs] at hget
      exact .present (hway.of_sameBut hs hd' (by simp [Disk.fileIs_some_iff.mp hnew])) hget
    exact .inr ⟨d', e', hrun, hrun', hplaced, ha.of_cwd hs.cwd,
      hb.of_sameBut ha.ne hs hs' hget (Disk.fileIs_some_iff.mp hnew'), he'⟩
  · obtain ⟨p, hp, -⟩ := hway.parent
    have hholds : d.holds s.path = .ok true := by
      rw [Disk.holds, Disk.stat_of_locate hway.leads hfile]
    have hholds' : e.holds s.path = .ok true := by
      rw [Disk.holds, Disk.stat_of_locate hway'.leads hfile']
    obtain ⟨err, hrun⟩ | ⟨k, -, -, hrun⟩ := DiskM.makeTemp_cases hway.wellFormed s.path
    · have hrun' := DiskM.beside_makeTemp hb.dirsIn hway.wellFormed hp (ha.free_iff hb) hrun
      refine .inl ⟨err, ?_, ?_⟩
      · rw [DiskM.run_replace, hholds, hrun]
      · rw [DiskM.run_replace, hholds', hrun']
    · exact absurd ⟨_, _, hrun⟩ htemp

/-- What is new in the second tree makes no difference to a task: it has the same answer in both, and
leaves the trees as different as they were. -/
def Indifferent (new : Loc → Prop) (file : Loc) (s : Store) {α : Type} (m : Session α) : Prop :=
  ∀ ⦃w v : World⦄, Alongside new file s w.disk v.disk →
    (m.run v).1 = (m.run w).1 ∧ Alongside new file s (m.run w).2.disk (m.run v).2.disk

/-- One task after another goes through the trees in step. -/
theorem Indifferent.bind {α β : Type} {m : Session α} {g : α → Session β}
    (hm : Indifferent new file s m) (hg : ∀ a, Indifferent new file s (g a)) :
    Indifferent new file s (m >>= g) := by
  intro w v h
  obtain ⟨hanswer, h'⟩ := hm h
  rw [run_bind, run_bind]
  generalize m.run w = x at hanswer h'
  generalize m.run v = y at hanswer h'
  obtain ⟨r, w'⟩ := x
  obtain ⟨r', v'⟩ := y
  obtain rfl : r' = r := hanswer
  cases r' with
  | error f => exact ⟨rfl, h'⟩
  | ok a => exact hg a h'

theorem indifferent_ensureExists : Indifferent new file s s.ensureExists := by
  intro w v h
  cases h.placed with
  | @missing d₀ hd hmake hway hnone =>
    obtain ⟨e₀, hmake', h₀, hway', hnone'⟩ := h.exists_makeDirs hmake hway hnone
    rw [run_ensureExists, run_ensureExists]
    simp only [hmake, hmake', DiskM.run_writeNew_of_missing hway.leads hnone,
      DiskM.run_writeNew_of_missing hway'.leads hnone', h₀.beside.dirsIn.place,
      hway.checkDirOf_beside h₀.beside]
    cases d₀.checkDirOf (d₀.place s.path) with
    | error err => cases err <;> exact ⟨rfl, h₀⟩
    | ok u =>
      simp only [World.disk_noted]
      exact ⟨trivial, h₀.put hway _ _⟩
  | @present m c hway hfile =>
    have hway' := hway.beside h.apart h.beside h.wellFormed
    have hfile' : v.disk.get? (v.disk.place s.path) = some (.file m c) := by
      rw [h.beside.dirsIn.place, h.apart.get? h.beside, hfile]
    rw [hway.run_ensureExists hfile, hway'.run_ensureExists hfile']
    exact ⟨rfl, h⟩

theorem indifferent_grant (container kind value : String) :
    Indifferent new file s (s.grant container kind value) := by
  intro w v h
  rw [run_grant, run_grant]
  cases grantOf container kind value with
  | error f => exact ⟨rfl, h⟩
  | ok r =>
    cases h.placed with
    | @missing d₀ hd hmake hway hnone =>
      obtain ⟨e₀, hmake', h₀, hway', hnone'⟩ := h.exists_makeDirs hmake hway hnone
      simp only [hmake, hmake', DiskM.run_appendLine_of_missing hway.leads hnone,
        DiskM.run_appendLine_of_missing hway'.leads hnone', h₀.beside.dirsIn.place,
        hway.checkDirOf_beside h₀.beside]
      cases d₀.checkDirOf (d₀.place s.path) with
      | error err => exact ⟨rfl, h₀⟩
      | ok u =>
        simp only [World.disk_noted]
        exact ⟨trivial, h₀.put hway _ _⟩
    | @present m c hway hfile =>
      have hway' := hway.beside h.apart h.beside h.wellFormed
      have hplace := h.beside.dirsIn.place s.path
      have hfile' : v.disk.get? (v.disk.place s.path) = some (.file m c) := by
        rw [hplace, h.apart.get? h.beside, hfile]
      simp only [hway.makeDirs, hway'.makeDirs, DiskM.run_appendLine_of_file hway.leads hfile,
        DiskM.run_appendLine_of_file hway'.leads hfile', hplace]
      by_cases hcan : (c.size = 0 ∨ Access.read.allowed (w.disk.place s.path) m = true) ∧
          Access.write.allowed (w.disk.place s.path) m = true
      · simp only [if_pos hcan, World.disk_noted]
        exact ⟨trivial, h.put hway _ _⟩
      · simp only [if_neg hcan]
        exact ⟨trivial, h⟩

theorem indifferent_revoke (container kind : String) :
    Indifferent new file s (s.revoke container kind) := by
  intro w v h
  rw [run_revoke, run_revoke, h.textAt]
  cases Kind.parse kind with
  | error f => exact ⟨rfl, h⟩
  | ok k =>
    cases ht : w.disk.textAt s.path with
    | error err => exact ⟨rfl, h⟩
    | ok t =>
      by_cases hc : countIn container k t = 0
      · simp only [if_pos hc]
        exact ⟨trivial, h⟩
      · simp only [if_neg hc]
        cases h.placed with
        | missing hd hmake hway hnone =>
          rw [hway.textAt_of_missing hmake hnone, Except.ok.injEq] at ht
          exact absurd (ht ▸ rfl) hc
        | present hway hfile =>
          obtain ⟨err, hrun, hrun'⟩ | ⟨d', e', hrun, hrun', h'⟩ :=
            h.replace hway hfile (without container k t)
          · simp only [hrun, hrun']
            exact ⟨trivial, h⟩
          · simp only [hrun, hrun', World.disk_noted]
            exact ⟨trivial, h'⟩

end BoxWarden.Store
