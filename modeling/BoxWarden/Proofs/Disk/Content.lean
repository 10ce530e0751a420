import BoxWarden.Proofs.Disk.Change

/-!
Giving files content: a new file, a line at the end, and a new content in the place of the old one.
Each operation is opened once here. A refused one leaves the tree as it was, down to the temporary
file that a replacement goes through.
-/

namespace BoxWarden

namespace Disk

theorem stat_of_locate_error {d : Disk} {p : Path} {e : DiskError} (h : d.locate p = .error e) :
    d.stat p = .error e := by
  rw [stat, h]
  rfl

/-- A question that has no answer counts as a missing file or passes its failure on. -/
theorem holds_of_stat_error {d : Disk} {p : Path} {e : DiskError} (h : d.stat p = .error e) :
    d.holds p = .ok false ∨ d.holds p = .error e := by
  rw [holds, h]
  cases e <;> simp

theorem stat_of_missing {d : Disk} {p : Path} {l : Loc} (hl : d.locate p = .ok l)
    (hg : d.get? l = none) : d.stat p = .error .notFound := by
  simp only [stat, hl, hg, bind, Except.bind]

/-- Where a path leads somewhere, there is an answer. -/
theorem holds_of_locate {d : Disk} {p : Path} {l : Loc} (hl : d.locate p = .ok l) :
    ∃ there, d.holds p = .ok there := by
  cases hg : d.get? l with
  | none => exact ⟨false, by rw [holds, stat_of_missing hl hg]⟩
  | some n => exact ⟨true, by rw [holds, stat_of_locate hl hg]⟩

/-- A way that new directories open ends where nothing was before, or was not there. -/
theorem Grown.walk {d d' : Disk} (h : Grown d d') {here l : Loc} {parts : List String}
    (hw : d'.walk here parts = .ok l) :
    d.walk here parts = .ok l ∨ d.walk here parts = .error .notFound := by
  induction parts generalizing here with
  | nil => exact .inl hw
  | cons name rest ih =>
    obtain ⟨⟨m, hm, hs⟩, hname, hrest⟩ := walk_cons.mp hw
    cases hg : d.get? here with
    | none =>
      refine .inr ?_
      rw [Disk.walk, hg]
    | some n =>
      have hn := h.kept here n hg
      rw [hm, Option.some.injEq] at hn
      subst hn
      rcases ih hrest with hok | herr
      · exact .inl (walk_cons.mpr ⟨⟨m, hg, hs⟩, hname, hok⟩)
      · refine .inr ?_
        rw [Disk.walk, hg]
        rcases hname with rfl | hsize
        · simpa [hs, Loc.follow] using herr
        · by_cases hup : name = ".."
          · simpa [hs, hup, Loc.follow] using herr
          · simpa [hs, hup, Nat.not_lt.mpr hsize, Loc.follow] using herr

/-- A path that new directories open was open, or something was missing on its way. -/
theorem Grown.locate {d d' : Disk} (h : Grown d d') {p : Path} {l : Loc}
    (hl : d'.locate p = .ok l) : d.locate p = .ok l ∨ d.locate p = .error .notFound := by
  obtain ⟨hnul, htext, hwalk⟩ := locate_eq_ok_iff.mp hl
  rw [h.cwd] at hwalk
  rcases h.walk hwalk with hok | herr
  · exact .inl (locate_eq_ok_iff.mpr ⟨hnul, htext, hok⟩)
  · refine .inr ?_
    rw [Disk.locate, if_neg (by simp [hnul]), if_neg (by omega), herr]

/-- What is missing once new directories are made was missing before. -/
theorem Grown.holds {d d' : Disk} (h : Grown d d') {p : Path} {l : Loc}
    (hl : d'.locate p = .ok l) (hg : d'.get? l = none) : d.holds p = .ok false := by
  have hstat : d.stat p = .error .notFound := by
    rcases h.locate hl with hok | herr
    · refine stat_of_missing hok ?_
      cases hd : d.get? l with
      | none => rfl
      | some n =>
        rw [h.kept l n hd] at hg
        cases hg
    · exact stat_of_locate_error herr
  rw [Disk.holds, hstat]

theorem read_of_file {d : Disk} {p : Path} {l : Loc} {m : Nat} {c : ByteArray}
    (hl : d.locate p = .ok l) (hg : d.get? l = some (.file m c)) :
    d.read p = if Access.read.allowed l m then .ok c else .error .denied := by
  simp only [read, hl, hg, bind, Except.bind]

theorem append_of_file {d : Disk} {p : Path} {l : Loc} {m : Nat} {c : ByteArray}
    (hl : d.locate p = .ok l) (hg : d.get? l = some (.file m c)) (bytes : ByteArray) :
    d.append p bytes = if Access.write.allowed l m then .ok (d.put l (.file m (c ++ bytes)))
      else .error .denied := by
  simp [append, hl, hg, bind, Except.bind]

theorem append_of_missing {d : Disk} {p : Path} {l : Loc} (hl : d.locate p = .ok l)
    (hg : d.get? l = none) (bytes : ByteArray) :
    d.append p bytes = (d.checkDirOf l).map fun _ => d.put l (.file fileMode bytes) := by
  simp only [append, hl, hg, bind, Except.bind]
  cases d.checkDirOf l <;> rfl

end Disk

namespace DiskM

/-- What goes between the content of a file and a new line. -/
def gap (content : ByteArray) : String :=
  if content.size ≠ 0 ∧ content.data.back? ≠ some 10 then "\n" else ""

/-- A line goes behind the content of a file that may be read and written; an empty file need not
be read. -/
theorem run_appendLine_of_file {d : Disk} {p : Path} {l : Loc} {m : Nat} {c : ByteArray}
    (hl : d.locate p = .ok l) (hg : d.get? l = some (.file m c)) (line : String) :
    (appendLine p line).run d =
      if (c.size = 0 ∨ Access.read.allowed l m = true) ∧ Access.write.allowed l m = true then
        (.ok (), d.put l (.file m (c ++ (gap c ++ line ++ "\n").toUTF8)))
      else (.error .denied, d) := by
  have hstat := Disk.stat_of_locate hl hg
  have hholds : d.holds p = .ok true := by rw [Disk.holds, hstat]
  have hread : (ask (·.read p)).run d =
      (if Access.read.allowed l m then .ok c else .error .denied, d) := by
    rw [run_ask, Disk.read_of_file hl hg]
  have happend (g : String) : (change (·.append p (g ++ line ++ "\n").toUTF8)).run d =
      if Access.write.allowed l m = true then
        (.ok (), d.put l (.file m (c ++ (g ++ line ++ "\n").toUTF8)))
      else (.error .denied, d) := by
    rw [run_change, Disk.append_of_file hl hg]
    by_cases hw : Access.write.allowed l m = true
    · rw [if_pos hw, if_pos hw]
    · rw [if_neg hw, if_neg hw]
  rw [appendLine, run_bind_ok (by rw [run_ask, hholds]), if_pos rfl]
  refine (run_bind_ok (t := d) (a := decide (c.size ≠ 0)) (by rw [run_ask, hstat]; rfl) _).trans ?_
  by_cases hc : c.size = 0
  · have hgap : gap c = "" := by simp [gap, hc]
    rw [if_neg (by simp [hc]), hgap]
    refine (happend "").trans ?_
    simp only [hc, true_or, true_and]
  · rw [if_pos (by simp [hc])]
    by_cases hr : Access.read.allowed l m = true
    · rw [if_pos hr] at hread
      rw [run_bind_ok hread]
      by_cases hb : c.data.back? ≠ some 10
      · have hgap : gap c = "\n" := by simp [gap, hc, hb]
        rw [if_pos hb, hgap]
        refine (happend "\n").trans ?_
        simp only [hr, or_true, true_and]
      · have hgap : gap c = "" := by simp [gap, Classical.not_not.mp hb]
        rw [if_neg hb, hgap]
        refine (happend "").trans ?_
        simp only [hr, or_true, true_and]
    · rw [if_neg hr] at hread
      rw [run_bind_error hread, if_neg (by simp [hc, hr])]

/-- A line goes into a new file where there is none. -/
theorem run_appendLine_of_missing {d : Disk} {p : Path} {l : Loc} (hl : d.locate p = .ok l)
    (hg : d.get? l = none) (line : String) :
    (appendLine p line).run d = match d.checkDirOf l with
      | .ok () => (.ok (), d.put l (.file Disk.fileMode (line ++ "\n").toUTF8))
      | .error e => (.error e, d) := by
  have hholds : d.holds p = .ok false := by rw [Disk.holds, Disk.stat_of_missing hl hg]
  rw [appendLine, run_bind_ok (by rw [run_ask, hholds]), if_neg (by simp), run_change,
    Disk.append_of_missing hl hg, String.empty_append]
  cases d.checkDirOf l <;> rfl

/-- Where there is no way to the file, a line is refused for the same reason. -/
theorem run_appendLine_of_error {d : Disk} {p : Path} {e : DiskError} (hl : d.locate p = .error e)
    (line : String) : (appendLine p line).run d = (.error e, d) := by
  have hstat := Disk.stat_of_locate_error hl
  have happend (bytes : ByteArray) : d.append p bytes = .error e := by
    rw [Disk.append, hl]
    rfl
  rw [appendLine]
  rcases Disk.holds_of_stat_error hstat with hholds | hholds
  · rw [run_bind_ok (by rw [run_ask, hholds]), if_neg (by simp), run_change, happend]
  · rw [run_bind_error (by rw [run_ask, hholds])]

/-- A directory takes no line. -/
theorem run_appendLine_of_dir {d : Disk} {p : Path} {l : Loc} {m : Nat} (hl : d.locate p = .ok l)
    (hg : d.get? l = some (.dir m)) (line : String) :
    ∃ e, (appendLine p line).run d = (.error e, d) := by
  have hstat := Disk.stat_of_locate hl hg
  have hholds : d.holds p = .ok true := by rw [Disk.holds, hstat]
  have hread : d.read p =
      .error (if Access.read.allowed l m then .isDirectory else .denied) := by
    simp only [Disk.read, hl, hg, bind, Except.bind]
  refine ⟨if Access.read.allowed l m then .isDirectory else .denied, ?_⟩
  rw [appendLine, run_bind_ok (by rw [run_ask, hholds]), if_pos rfl]
  refine (run_bind_ok (t := d) (a := true) (by rw [run_ask, hstat]; rfl) _).trans ?_
  rw [if_pos rfl, run_bind_error (by rw [run_ask, hread])]

/-- A line that is refused leaves the tree as it was, and one that is not goes to the place of the
path. -/
theorem appendLine_cases (p : Path) (line : String) (d : Disk) :
    (∃ e, (appendLine p line).run d = (.error e, d)) ∨
      d.locate p = .ok (d.place p) ∧
        ((d.get? (d.place p) = none ∧ d.checkDirOf (d.place p) = .ok () ∧
            (appendLine p line).run d =
              (.ok (), d.put (d.place p) (.file Disk.fileMode (line ++ "\n").toUTF8))) ∨
          ∃ m c, d.get? (d.place p) = some (.file m c) ∧
            (appendLine p line).run d =
              (.ok (), d.put (d.place p) (.file m (c ++ (gap c ++ line ++ "\n").toUTF8)))) := by
  cases hl : d.locate p with
  | error e => exact .inl ⟨e, run_appendLine_of_error hl line⟩
  | ok l =>
    have hp := Disk.place_of_locate hl
    subst hp
    cases hg : d.get? (d.place p) with
    | none =>
      rw [run_appendLine_of_missing hl hg]
      cases hc : d.checkDirOf (d.place p) with
      | error e => exact .inl ⟨e, rfl⟩
      | ok u => exact .inr ⟨rfl, .inl ⟨rfl, rfl, rfl⟩⟩
    | some n =>
      cases n with
      | dir m => exact .inl (run_appendLine_of_dir hl hg line)
      | file m c =>
        rw [run_appendLine_of_file hl hg]
        split
        · exact .inr ⟨rfl, .inr ⟨m, c, rfl, rfl⟩⟩
        · exact .inl ⟨_, rfl⟩

/-- Nothing is made where something is. -/
theorem run_writeNew_of_missing {d : Disk} {p : Path} {l : Loc} (hl : d.locate p = .ok l)
    (hg : d.get? l = none) (text : String) (mode : Nat) :
    (writeNew p text mode).run d = match d.checkDirOf l with
      | .ok () => (.ok (), d.put l (.file (Disk.newMode mode) text.toUTF8))
      | .error e => (.error e, d) := by
  rw [writeNew, run_change, Disk.create, hl]
  simp only [bind, Except.bind, hg]
  cases d.checkDirOf l <;> rfl

theorem run_writeNew_of_there {d : Disk} {p : Path} {l : Loc} {n : Node} (hl : d.locate p = .ok l)
    (hg : d.get? l = some n) (text : String) (mode : Nat) :
    (writeNew p text mode).run d = (.error .alreadyThere, d) := by
  rw [writeNew, run_change, Disk.create, hl]
  simp only [bind, Except.bind, hg]

end DiskM

end BoxWarden
