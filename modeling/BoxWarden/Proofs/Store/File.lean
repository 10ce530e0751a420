import BoxWarden.Proofs.Disk.Directories
import BoxWarden.Proofs.Disk.Replacement
import BoxWarden.Proofs.Store.Text

/-!
The file of grants in a tree: what is read from it, and what each change makes of its text. Nothing
here depends on how the rest of the tree looks, except whether a change is refused.
-/

namespace BoxWarden

theorem fromUTF8?_eq_some_iff {c : ByteArray} {t : String} :
    String.fromUTF8? c = some t ↔ c = t.toUTF8 := by
  unfold String.fromUTF8?
  constructor
  · intro h
    split at h
    · rw [← Option.some.inj h]
      rfl
    · cases h
  · rintro rfl
    rw [String.toUTF8_eq_toByteArray, dif_pos t.isValidUTF8]
    rfl

namespace Disk

variable {d d' : Disk} {p : Path} {l : Loc}

/-- What stands at a place is a file with a text, or no file. -/
def FileIs (d : Disk) (l : Loc) (f : Option (Nat × String)) : Prop :=
  d.file? l = f.map fun (m, t) => (m, t.toUTF8)

theorem fileIs_some_iff {m : Nat} {t : String} :
    FileIs d l (some (m, t)) ↔ d.get? l = some (.file m t.toUTF8) := file?_eq_some_iff

theorem FileIs.of_grown {f : Option (Nat × String)} (h : FileIs d l f) (hg : Grown d d') :
    FileIs d' l f := (hg.file? l).trans h

theorem FileIs.of_same {f : Option (Nat × String)} (h : FileIs d l f) (hs : Same d d') :
    FileIs d' l f := (file?_of_get? (hs.get? l)).trans h

theorem FileIs.not_file {f : Option (Nat × String)} (h : FileIs d l f) (hn : d.get? l = none) :
    f = none := by
  rw [FileIs, file?, hn] at h
  cases f with
  | none => rfl
  | some x => cases h

theorem FileIs.of_none (h : d.get? l = none) : FileIs d l none := by
  rw [FileIs, file?, h]
  rfl

/-- A file at a place has one text. -/
theorem FileIs.of_file {f : Option (Nat × String)} {m : Nat} {c : ByteArray} (h : FileIs d l f)
    (hn : d.get? l = some (.file m c)) : ∃ t, f = some (m, t) ∧ c = t.toUTF8 := by
  rw [FileIs, file?_eq_some_iff.mpr hn] at h
  cases f with
  | none => cases h
  | some x =>
    obtain ⟨m', t⟩ := x
    obtain ⟨hm, hc⟩ := Prod.mk.inj (Option.some.inj h)
    subst hm
    exact ⟨t, rfl, hc⟩

/-- The text that a path names; where it names nothing, there is none. -/
def textAt (d : Disk) (p : Path) : Except DiskError String := do
  if ← d.holds p then d.readText p else pure ""

theorem read_eq_ok_iff {c : ByteArray} :
    d.read p = .ok c ↔ d.locate p = .ok (d.place p) ∧
      ∃ m, d.get? (d.place p) = some (.file m c) ∧
        Access.read.allowed (d.place p) m = true := by
  unfold read
  cases hl : d.locate p with
  | error e => simp [bind, Except.bind]
  | ok l =>
    have hp := place_of_locate hl
    subst hp
    simp only [bind, Except.bind]
    cases hg : d.get? (d.place p) with
    | none => simp
    | some n =>
      cases n with
      | dir m => simp
      | file m c' =>
        cases hr : Access.read.allowed (d.place p) m with
        | false => simp [hr]
        | true =>
          simp only [hr, if_true, true_and, Except.ok.injEq, Option.some.injEq, Node.file.injEq]
          constructor
          · rintro rfl
            exact ⟨m, ⟨rfl, rfl⟩, hr⟩
          · rintro ⟨m', ⟨-, hc⟩, -⟩
            exact hc

theorem readText_eq_ok_iff {t : String} :
    d.readText p = .ok t ↔ d.locate p = .ok (d.place p) ∧
      ∃ m, d.get? (d.place p) = some (.file m t.toUTF8) ∧
        Access.read.allowed (d.place p) m = true := by
  rw [← read_eq_ok_iff]
  unfold readText
  cases hr : d.read p with
  | error e => simp [bind, Except.bind]
  | ok c =>
    have htext := fromUTF8?_eq_some_iff (c := c) (t := t)
    simp only [bind, Except.bind, Except.ok.injEq, ← htext]
    cases String.fromUTF8? c <;> simp

/-- A text that says something is read from a file. -/
theorem readText_of_textAt {t : String} (h : d.textAt p = .ok t) (ht : t ≠ "") :
    d.readText p = .ok t := by
  unfold textAt at h
  cases hh : d.holds p with
  | error e =>
    rw [hh] at h
    cases h
  | ok there =>
    rw [hh] at h
    cases there with
    | false => exact absurd (Except.ok.inj h).symm ht
    | true => exact h

theorem textAt_of_file {m : Nat} {t : String} (hl : d.locate p = .ok (d.place p))
    (hg : d.get? (d.place p) = some (.file m t.toUTF8))
    (hr : Access.read.allowed (d.place p) m = true) : d.textAt p = .ok t := by
  have hholds : d.holds p = .ok true := by rw [holds, stat_of_locate hl hg]
  rw [textAt, hholds]
  exact readText_eq_ok_iff.mpr ⟨hl, m, hg, hr⟩

theorem textAt_of_not_holds (h : d.holds p = .ok false) : d.textAt p = .ok "" := by
  rw [textAt, h]
  rfl

end Disk

namespace Store

open Disk (FileIs)

/-- The gap behind a text ends its last line. -/
theorem toList_append_gap (t : String) :
    (t ++ DiskM.gap t.toUTF8).toList = Text.ended t.toList := by
  have hempty : t.toUTF8.size = 0 ↔ t.toList = [] := by
    rw [String.toList_eq_nil_iff, ← String.utf8ByteSize_eq_zero_iff]
    rfl
  rw [Text.ended, DiskM.gap, String.toList_append]
  by_cases h : t.toList = [] ∨ t.toList.getLast? = some '\n'
  · rw [if_pos h, if_neg]
    · simp
    · rw [← hempty, ← Text.back?_toUTF8] at h
      exact fun hn => h.elim hn.1 hn.2
  · rw [if_neg h, if_pos]
    · simp
    · rw [← hempty, ← Text.back?_toUTF8, not_or] at h
      exact h

theorem behind_eq (t rest : String) : behind t rest = t ++ DiskM.gap t.toUTF8 ++ rest := by
  apply String.toList_injective
  rw [behind, String.toList_ofList, String.toList_append, toList_append_gap]

/-- The bytes that are written behind a text make it the text with one line more. -/
theorem toUTF8_added (t line : String) :
    (added t line).toUTF8 = t.toUTF8 ++ (DiskM.gap t.toUTF8 ++ line ++ "\n").toUTF8 := by
  have htext : added t line = t ++ (DiskM.gap t.toUTF8 ++ line ++ "\n") := by
    rw [added_eq_behind, behind_eq, String.append_assoc, String.append_assoc]
  rw [htext]
  exact String.toByteArray_append

/-- What a line makes of a file. -/
def withLine (line : String) : Option (Nat × String) → Nat × String
  | none => (Disk.fileMode, added "" line)
  | some (m, t) => (m, added t line)

variable {d : Disk} {p : Path}

theorem fileIs_put {l : Loc} {m : Nat} {t : String} :
    FileIs (d.put l (.file m t.toUTF8)) l (some (m, t)) :=
  Disk.fileIs_some_iff.mpr (Disk.get?_put_self _ _ _)

/-- A file that is put where no directory was leaves a tree of files. -/
theorem wellFormed_put_file (hd : d.WellFormed) (hl : d.locate p = .ok (d.place p))
    (hdir : ∀ m, d.get? (d.place p) ≠ some (.dir m)) (m : Nat) (c : ByteArray) :
    (d.put (d.place p) (.file m c)).WellFormed := by
  have hp := Disk.endsInName_of_locate hd hl hdir
  obtain ⟨-, -, mode, hmode, -⟩ := Disk.locate_parent hp hl
  exact hd.of_sameBut (Disk.sameBut_put d _ _) hdir ⟨mode, hmode⟩ (Disk.names_place hd p)

/-- A line goes behind the text of the file, or the tree stays as it is. -/
theorem appendLine_step (hd : d.WellFormed) (line : String) :
    (∃ e, (DiskM.appendLine p line).run d = (.error e, d)) ∨
      ∃ d', (DiskM.appendLine p line).run d = (.ok (), d') ∧ d'.WellFormed ∧
        Disk.SameBut (d.place p) d d' ∧
        ∀ f, FileIs d (d.place p) f → FileIs d' (d.place p) (some (withLine line f)) := by
  obtain h | ⟨hl, ⟨hnone, -, h⟩ | ⟨m, c, hfile, h⟩⟩ := DiskM.appendLine_cases p line d
  · exact .inl h
  · refine .inr ⟨_, h, wellFormed_put_file hd hl (by simp [hnone]) _ _,
      Disk.sameBut_put d _ _, fun f hf => ?_⟩
    have hline : line ++ "\n" = added "" line := by
      apply String.toList_injective
      simp [added, Text.ended]
    rw [hf.not_file hnone, withLine, hline]
    exact fileIs_put
  · refine .inr ⟨_, h, wellFormed_put_file hd hl (by simp [hfile]) _ _,
      Disk.sameBut_put d _ _, fun f hf => ?_⟩
    obtain ⟨t, rfl, rfl⟩ := hf.of_file hfile
    rw [withLine, ← toUTF8_added]
    exact fileIs_put

theorem appendLine_ok {d' : Disk} (hd : d.WellFormed) {line : String}
    (h : (DiskM.appendLine p line).run d = (.ok (), d')) :
    d'.WellFormed ∧ Disk.SameBut (d.place p) d d' ∧
      ∀ f, FileIs d (d.place p) f → FileIs d' (d.place p) (some (withLine line f)) := by
  obtain ⟨e, herr⟩ | ⟨d'', hok, hstep⟩ := appendLine_step (p := p) hd line
  · rw [h] at herr
    cases herr
  · rw [h] at hok
    obtain rfl : d' = d'' := (Prod.mk.inj hok).2
    exact hstep

/-- A new text takes the place of the old one, or the tree stays as it is. -/
theorem replace_step (hd : d.WellFormed) (hl : d.locate p = .ok (d.place p)) {m : Nat}
    {c : ByteArray} (hg : d.get? (d.place p) = some (.file m c)) (text : String) :
    (∃ e, (DiskM.replace p text).run d = (.error e, d)) ∨
      ∃ d', (DiskM.replace p text).run d = (.ok (), d') ∧ d'.WellFormed ∧
        Disk.SameBut (d.place p) d d' ∧ FileIs d' (d.place p) (some (m &&& 0o777, text)) := by
  obtain ⟨-, hrun⟩ | ⟨-, d', hrun, hs, hfile⟩ := DiskM.replace_cases hd p text
  · exact .inl hrun
  · have hp := Disk.endsInName_of_locate hd hl (by simp [hg])
    obtain ⟨-, -, mode, hmode, -⟩ := Disk.locate_parent hp hl
    rw [DiskM.replacedMode_of_file hl hg] at hfile
    exact .inr ⟨d', hrun, hd.of_sameBut hs (by simp [hg]) ⟨mode, hmode⟩ (Disk.names_place hd p), hs,
      Disk.fileIs_some_iff.mpr hfile⟩

theorem replace_ok {d' : Disk} (hd : d.WellFormed) (hl : d.locate p = .ok (d.place p)) {m : Nat}
    {c : ByteArray} (hg : d.get? (d.place p) = some (.file m c)) {text : String}
    (h : (DiskM.replace p text).run d = (.ok (), d')) :
    d'.WellFormed ∧ Disk.SameBut (d.place p) d d' ∧
      FileIs d' (d.place p) (some (m &&& 0o777, text)) := by
  obtain ⟨e, herr⟩ | ⟨d'', hok, hstep⟩ := replace_step hd hl hg text
  · rw [h] at herr
    cases herr
  · rw [h] at hok
    obtain rfl : d' = d'' := (Prod.mk.inj hok).2
    exact hstep

/-- A new file is made where nothing was, or the tree stays as it is. -/
theorem writeNew_step (hd : d.WellFormed) (text : String) (mode : Nat) :
    (∃ e, (DiskM.writeNew p text mode).run d = (.error e, d)) ∨
      ∃ d', (DiskM.writeNew p text mode).run d = (.ok (), d') ∧ d'.WellFormed ∧
        Disk.SameBut (d.place p) d d' ∧ d.get? (d.place p) = none ∧
          d.checkDirOf (d.place p) = .ok () ∧
            FileIs d' (d.place p) (some (Disk.newMode mode, text)) := by
  rw [DiskM.writeNew, DiskM.run_change]
  cases h : d.create p (.file (Disk.newMode mode) text.toUTF8) with
  | error e => exact .inl ⟨e, rfl⟩
  | ok d' =>
    have hd' := hd.create h
    obtain ⟨-, hnone, hcheck, rfl⟩ := Disk.create_eq_ok_iff.mp h
    exact .inr ⟨_, rfl, hd', Disk.sameBut_put d _ _, hnone, hcheck, fileIs_put⟩

end Store

end BoxWarden
