import BoxWarden.Proofs.Store.Call

/-!
The store as a plain list of grants. As long as the file can be read and written and its directory
takes it, each call answers as the list does and leaves a file that stands for the new list.
-/

namespace BoxWarden

/-- A list of grants, and whether there is a file for it. -/
structure Ledger where
  present : Bool
  grants : List Record
deriving DecidableEq, Repr

namespace Ledger

open Store (Call Answer)

/-- The answer to a call, and the ledger after it. -/
def step (g : Ledger) : Call → Except Fault Answer × Ledger
  | .ensure => (.ok (.made !g.present), { g with present := true })
  | .grant container kind value =>
    match Store.grantOf container kind value with
    | .error e => (.error e, g)
    | .ok r => (.ok (.granted r), ⟨true, g.grants ++ [r]⟩)
  | .revoke container kind =>
    match Kind.parse kind with
    | .error e => (.error e, g)
    | .ok k =>
      (.ok (.revoked (g.grants.filter (Store.grants container k)).length),
        { g with grants := g.grants.filter fun r => !Store.grants container k r })
  | .list container => (.ok (.found (g.grants.filter (·.container = container))), g)
  | .records => (.ok (.found g.grants), g)
  | .containers => (.ok (.named (g.grants.map Record.container).eraseDups), g)

/-- The answers to a series of calls, and the ledger after it. -/
def run (g : Ledger) : List Call → List (Except Fault Answer) × Ledger
  | [] => ([], g)
  | call :: calls =>
    let (answer, g') := g.step call
    let (answers, g'') := run g' calls
    (answer :: answers, g'')

/-- The ledger that a file stands for, or the lack of one. -/
def ofText : Option String → Ledger
  | none => ⟨false, []⟩
  | some t => ⟨true, Store.grantsIn t⟩

theorem grants_ofText (f : Option String) : (ofText f).grants = Store.grantsIn (f.getD "") := by
  cases f <;> rfl

end Ledger

namespace Store

open Disk (FileIs)

variable {s : Store} {d d' : Disk}

/-- There is a way to the file of a store, and no directory stands at its end. -/
structure Way (s : Store) (d : Disk) : Prop where
  wellFormed : d.WellFormed
  leads : d.locate s.path = .ok (d.place s.path)
  noDir : ∀ m, d.get? (d.place s.path) ≠ some (.dir m)

theorem Way.endsInName (h : Way s d) : Disk.endsInName s.path = true :=
  Disk.endsInName_of_locate h.wellFormed h.leads h.noDir

theorem Way.place_ne_top (h : Way s d) : d.place s.path ≠ [] := by
  intro htop
  obtain ⟨m, hm⟩ := h.wellFormed.top
  exact h.noDir m (htop ▸ hm)

/-- The directory of the file is there, so making it does nothing. -/
theorem Way.makeDirs (h : Way s d) :
    (DiskM.makeDirs s.path.parent 0o777 true).run d = (.ok (), d) := by
  obtain ⟨hl, -, m, hm, -⟩ := Disk.locate_parent h.endsInName h.leads
  exact DiskM.makeDirs_of_dir (Disk.stat_of_locate hl hm) 0o777

/-- A missing file whose directory can be made reads as an empty one. -/
theorem Way.textAt_of_missing {d₀ : Disk} (h : Way s d₀)
    (hmake : (DiskM.makeDirs s.path.parent 0o777 true).run d = (.ok (), d₀))
    (hnone : d₀.get? (d₀.place s.path) = none) : d.textAt s.path = .ok "" := by
  have hgrown := DiskM.grown_makeDirs s.path.parent 0o777 true d
  rw [hmake] at hgrown
  exact Disk.textAt_of_not_holds (hgrown.holds h.leads hnone)

theorem Way.place_of_sameBut (h : Way s d) (hs : Disk.SameBut (d.place s.path) d d') :
    d'.place s.path = d.place s.path := (hs.dirsIn h.noDir).place s.path

/-- A change of the file leaves the way to it. -/
theorem Way.of_sameBut (h : Way s d) (hs : Disk.SameBut (d.place s.path) d d')
    (hd' : d'.WellFormed) (hdir : ∀ m, d'.get? (d.place s.path) ≠ some (.dir m)) : Way s d' := by
  have hdirs := hs.dirsIn h.noDir
  have hplace := hdirs.place s.path
  refine ⟨hd', ?_, ?_⟩
  · rw [hplace]
    exact hdirs.locate h.leads
  · rw [hplace]
    exact hdir

/-- There is a way to the file, and its directory takes it and a temporary file beside it. -/
structure Room (s : Store) (d : Disk) : Prop where
  wellFormed : d.WellFormed
  way : d.locate s.path = .ok (d.place s.path)
  noDir : ∀ m, d.get? (d.place s.path) ≠ some (.dir m)
  temp : DiskM.TakesTemp d s.path

/-- The file of a store is missing and can be made, or it is a text that can be read and written. -/
inductive Holding (s : Store) (d : Disk) : Option String → Prop
  | missing {d₀ : Disk} (hd : d.WellFormed)
      (hmake : (DiskM.makeDirs s.path.parent 0o777 true).run d = (.ok (), d₀))
      (hroom : Room s d₀) (hnone : d₀.get? (d₀.place s.path) = none) : Holding s d none
  | present {m : Nat} {t : String} (hroom : Room s d)
      (hfile : FileIs d (d.place s.path) (some (m, t)))
      (hread : Access.read.allowed (d.place s.path) m = true)
      (hwrite : Access.write.allowed (d.place s.path) m = true) : Holding s d (some t)

theorem Room.toWay (h : Room s d) : Way s d := ⟨h.wellFormed, h.way, h.noDir⟩

theorem Room.checkDirOf (h : Room s d) : d.checkDirOf (d.place s.path) = .ok () :=
  h.temp.checkDirOf h.wellFormed h.toWay.endsInName h.way

/-- A change of the file leaves the room for it. -/
theorem Room.of_sameBut (h : Room s d) (hs : Disk.SameBut (d.place s.path) d d')
    (hd' : d'.WellFormed) (hdir : ∀ m, d'.get? (d.place s.path) ≠ some (.dir m)) : Room s d' := by
  have hway := h.toWay.of_sameBut hs hd' hdir
  exact ⟨hd', hway.leads, hway.noDir,
    h.temp.of_sameBut h.wellFormed hd' h.toWay.endsInName h.way h.noDir hs⟩

/-- Where there is room, a text that is put there is held. -/
theorem Room.holding {m : Nat} {t : String} (h : Room s d)
    (hs : Disk.SameBut (d.place s.path) d d') (hd' : d'.WellFormed)
    (hfile : FileIs d' (d.place s.path) (some (m, t)))
    (hread : Access.read.allowed (d.place s.path) m = true)
    (hwrite : Access.write.allowed (d.place s.path) m = true) : Holding s d' (some t) := by
  have hplace := (hs.dirsIn h.noDir).place s.path
  rw [← hplace] at hfile hread hwrite
  refine .present (h.of_sameBut hs hd' ?_) hfile hread hwrite
  rw [← hplace, Disk.fileIs_some_iff.mp hfile]
  simp

theorem allowed_newFile {l : Loc} (hl : l ≠ []) (a : Access) (ha : a ≠ .search) {mode : Nat}
    (hm : mode = Disk.fileMode ∨ mode = Disk.newMode 0o644) : a.allowed l mode = true := by
  have hmode : mode = 420 := by rcases hm with rfl | rfl <;> rfl
  rw [Access.allowed, if_neg hl, hmode]
  cases a with
  | read => decide
  | write => decide
  | search => exact absurd rfl ha

/-- The bits that a replacement keeps are those that count. -/
theorem allowed_and (a : Access) (l : Loc) (m : Nat) : a.allowed l (m &&& 0o777) = a.allowed l m := by
  have hbit : ∀ k < 9, (511 : Nat).testBit k = true := by decide
  rw [Access.allowed, Access.allowed, Nat.testBit_and, hbit, Bool.and_true]
  cases a <;> split <;> decide

variable {w : World} {f : Option String}

/-- A held text can be read; a missing file reads as an empty one. -/
theorem Holding.textAt (h : Holding s d f) : d.textAt s.path = .ok (f.getD "") := by
  cases h with
  | missing hd hmake hroom hnone => exact hroom.toWay.textAt_of_missing hmake hnone
  | present hroom hfile hread hwrite =>
    exact Disk.textAt_of_file hroom.way (Disk.fileIs_some_iff.mp hfile) hread

/-- A line can be added to a held text. -/
theorem Holding.appendLine (h : Holding s d f) (line : String) :
    ∃ d₀ d', (DiskM.makeDirs s.path.parent 0o777 true).run d = (.ok (), d₀) ∧
      (DiskM.appendLine s.path line).run d₀ = (.ok (), d') ∧
        Holding s d' (some (added (f.getD "") line)) := by
  cases h with
  | @missing d₀ hd hmake hroom hnone =>
    have hrun : ∃ d', (DiskM.appendLine s.path line).run d₀ = (.ok (), d') := by
      rw [DiskM.run_appendLine_of_missing hroom.way hnone, hroom.checkDirOf]
      exact ⟨_, rfl⟩
    obtain ⟨d', hrun⟩ := hrun
    obtain ⟨hd', hs, hfile⟩ := appendLine_ok hroom.wellFormed hrun
    exact ⟨d₀, d', hmake, hrun, hroom.holding hs hd' (hfile none (.of_none hnone))
      (allowed_newFile hroom.toWay.place_ne_top .read (by simp) (.inl rfl))
      (allowed_newFile hroom.toWay.place_ne_top .write (by simp) (.inl rfl))⟩
  | @present m t hroom hfile hread hwrite =>
    have hrun : ∃ d', (DiskM.appendLine s.path line).run d = (.ok (), d') := by
      rw [DiskM.run_appendLine_of_file hroom.way (Disk.fileIs_some_iff.mp hfile),
        if_pos ⟨.inr hread, hwrite⟩]
      exact ⟨_, rfl⟩
    obtain ⟨d', hrun⟩ := hrun
    obtain ⟨hd', hs, hnew⟩ := appendLine_ok hroom.wellFormed hrun
    exact ⟨d, d', hroom.toWay.makeDirs, hrun, hroom.holding hs hd' (hnew _ hfile) hread hwrite⟩

/-- A held text can be replaced. -/
theorem Holding.replace {t : String} (h : Holding s d (some t)) (t' : String) :
    ∃ d', (DiskM.replace s.path t').run d = (.ok (), d') ∧ Holding s d' (some t') := by
  cases h with
  | @present m t hroom hfile hread hwrite =>
    have hg := Disk.fileIs_some_iff.mp hfile
    obtain ⟨d', hrun⟩ := DiskM.replace_of_takesTemp hroom.wellFormed hroom.way hg hroom.temp t'
    obtain ⟨hd', hs, hnew⟩ := replace_ok hroom.wellFormed hroom.way hg hrun
    exact ⟨d', hrun, hroom.holding hs hd' hnew (by rwa [allowed_and]) (by rwa [allowed_and])⟩

/-- An answer and the tree that it leaves are those of a ledger. -/
def Agrees (s : Store) (r : Except Fault Answer × World) (g : Except Fault Answer × Ledger) : Prop :=
  r.1 = g.1 ∧ ∃ f, Holding s r.2.disk f ∧ Ledger.ofText f = g.2

theorem grant_agrees (h : Holding s w.disk f) (container kind value : String) :
    Agrees s (s.perform w (.grant container kind value))
      ((Ledger.ofText f).step (.grant container kind value)) := by
  rw [perform, run_grant, Ledger.step]
  cases hg : grantOf container kind value with
  | error e => exact ⟨rfl, f, h, rfl⟩
  | ok r =>
    obtain ⟨d₀, d', hmake, happend, hheld⟩ := h.appendLine r.line
    obtain ⟨-, -, -, hname, hvalue⟩ := grantOf_eq_ok_iff.mp hg
    simp only [hmake, happend]
    refine ⟨rfl, some (added (f.getD "") r.line), ?_, ?_⟩
    · simpa using hheld
    · rw [Ledger.ofText, grantsIn_added _ hname hvalue, Ledger.grants_ofText]

theorem revoke_agrees (h : Holding s w.disk f) (container kind : String) :
    Agrees s (s.perform w (.revoke container kind))
      ((Ledger.ofText f).step (.revoke container kind)) := by
  rw [perform, run_revoke, Ledger.step]
  cases hk : Kind.parse kind with
  | error e => exact ⟨rfl, f, h, rfl⟩
  | ok k =>
    simp only [h.textAt, Ledger.grants_ofText, ← countIn_eq]
    by_cases hc : countIn container k (f.getD "") = 0
    · have hnone : (grantsIn (f.getD "")).filter (fun r => !grants container k r) =
          grantsIn (f.getD "") := by
        rw [countIn_eq, List.length_eq_zero_iff, List.filter_eq_nil_iff] at hc
        rw [List.filter_eq_self]
        intro r hr
        simpa using hc r hr
      rw [if_pos hc, hc, hnone, ← Ledger.grants_ofText]
      exact ⟨rfl, f, h, rfl⟩
    · rw [if_neg hc]
      cases f with
      | none => exact absurd rfl hc
      | some t =>
        obtain ⟨d', hrun, hheld⟩ := h.replace (without container k t)
        simp only [Option.getD_some, hrun]
        refine ⟨rfl, some (without container k t), ?_, ?_⟩
        · simpa using hheld
        · rw [Ledger.ofText, grantsIn_without]
          rfl

/-- A file that is there is left alone. -/
theorem Way.run_ensureExists {n : Node} (h : Way s w.disk)
    (hn : w.disk.get? (w.disk.place s.path) = some n) : s.ensureExists.run w = (.ok false, w) := by
  rw [Store.run_ensureExists]
  simp only [h.makeDirs, DiskM.run_writeNew_of_there h.leads hn]

/-- The heading is no grant, so a new file stands for an empty list. -/
theorem ensure_agrees (h : Holding s w.disk f) :
    Agrees s (s.perform w .ensure) ((Ledger.ofText f).step .ensure) := by
  rw [perform, Ledger.step]
  cases h with
  | @missing d₀ hd hmake hroom hnone =>
    have hmade := DiskM.run_writeNew_of_missing hroom.way hnone heading 0o644
    rw [hroom.checkDirOf] at hmade
    rw [run_ensureExists]
    simp only [hmake, hmade]
    refine ⟨rfl, some heading, ?_, ?_⟩
    · have hheld := hroom.holding (Disk.sameBut_put _ _ _)
        (wellFormed_put_file hroom.wellFormed hroom.way hroom.noDir _ _) (fileIs_put (t := heading))
        (allowed_newFile hroom.toWay.place_ne_top .read (by simp) (.inr rfl))
        (allowed_newFile hroom.toWay.place_ne_top .write (by simp) (.inr rfl))
      simpa using hheld
    · change Ledger.mk true (grantsIn heading) = ⟨true, []⟩
      rw [grantsIn_heading]
  | @present m t hroom hfile hread hwrite =>
    rw [hroom.toWay.run_ensureExists (Disk.fileIs_some_iff.mp hfile)]
    exact ⟨rfl, some t, .present hroom hfile hread hwrite, rfl⟩

/-- A call answers as the ledger does and leaves a tree that stands for the new ledger. -/
theorem perform_agrees (h : Holding s w.disk f) (call : Call) :
    Agrees s (s.perform w call) ((Ledger.ofText f).step call) := by
  have hreads {answer : String → Answer} (hr : call.reading? = some answer)
      (hstep : (Ledger.ofText f).step call = (.ok (answer (f.getD "")), Ledger.ofText f)) :
      Agrees s (s.perform w call) ((Ledger.ofText f).step call) := by
    obtain ⟨hanswer, hdisk⟩ := s.perform_of_reading w hr
    rw [hstep]
    refine ⟨?_, f, hdisk ▸ h, rfl⟩
    rw [hanswer, h.textAt]
    rfl
  cases call with
  | ensure => exact ensure_agrees h
  | grant container kind value => exact grant_agrees h container kind value
  | revoke container kind => exact revoke_agrees h container kind
  | list container => exact hreads rfl (by rw [Ledger.step, Ledger.grants_ofText])
  | records => exact hreads rfl (by rw [Ledger.step, Ledger.grants_ofText])
  | containers => exact hreads rfl (by rw [Ledger.step, Ledger.grants_ofText])

/-- Over a whole series of calls the store is a list of grants. The induction is on the series; what
it carries is that the file stands for the ledger. -/
theorem answers_of_ledger {s : Store} {w : World} {f : Option String} (h : Holding s w.disk f)
    (calls : List Call) :
    (s.performAll w calls).1 = ((Ledger.ofText f).run calls).1 ∧
      ∃ f', Holding s (s.performAll w calls).2.disk f' ∧
        Ledger.ofText f' = ((Ledger.ofText f).run calls).2 := by
  induction calls generalizing w f with
  | nil => exact ⟨rfl, f, h, rfl⟩
  | cons call calls ih =>
    obtain ⟨hanswer, f', h', hledger⟩ := perform_agrees h call
    obtain ⟨hanswers, f'', h'', hledger'⟩ := ih h'
    rw [hledger] at hanswers hledger'
    rw [performAll_cons]
    exact ⟨List.cons_eq_cons.mpr ⟨hanswer, hanswers⟩, f'', h'', hledger'⟩

/-- A small tree with a file of grants that somebody else has written, whose last line has no
end. -/
def desk : Disk where
  nodes := [
    ([], .dir 0o755),
    (["home"], .dir 0o755),
    (["home", "p.conf"], .file 0o600 "# mine\r\ndev:gpu:1".toUTF8)]
  cwd := ["home"]

def deskStore : Store := ⟨⟨.here, ["p.conf"]⟩⟩

theorem wellFormed_desk : desk.WellFormed := Disk.wellFormed_of_isTree (by decide)

theorem fileIs_desk :
    FileIs desk (desk.place deskStore.path) (some (0o600, "# mine\r\ndev:gpu:1")) := rfl

theorem holding_desk : Holding deskStore desk (some "# mine\r\ndev:gpu:1") := by
  have htemp : DiskM.TakesTemp desk deskStore.path := by
    refine (DiskM.takesTemp_iff wellFormed_desk).mpr ⟨0, by decide, ?_, rfl, rfl⟩
    intro j hj
    exact absurd hj (Nat.not_lt_zero j)
  refine .present ⟨wellFormed_desk, rfl, ?_, htemp⟩ fileIs_desk (by decide) (by decide)
  intro m hm
  rw [Disk.fileIs_some_iff.mp fileIs_desk] at hm
  cases hm

theorem answers_of_ledger_desk :
    Holding deskStore desk (some "# mine\r\ndev:gpu:1") ∧
      (deskStore.performAll { disk := desk }
          [.grant "dev" "network" "host", .revoke "dev" "gpu", .ensure, .records]).1 =
        [.ok (.granted ⟨"dev", .network, "host"⟩), .ok (.revoked 1), .ok (.made false),
          .ok (.found [⟨"dev", .network, "host"⟩])] := by
  refine ⟨holding_desk, ?_⟩
  rw [(answers_of_ledger (w := { disk := desk }) holding_desk _).1]
  rfl

/-- Where no temporary file can be made, no grant can be taken back. -/
theorem revoke_of_not_takesTemp {m : Nat} {t : String} {container kind : String} {k : Kind}
    (hl : w.disk.locate s.path = .ok (w.disk.place s.path))
    (hfile : FileIs w.disk (w.disk.place s.path) (some (m, t)))
    (hread : Access.read.allowed (w.disk.place s.path) m = true)
    (htemp : ¬ DiskM.TakesTemp w.disk s.path) (hk : Kind.parse kind = .ok k)
    (hc : countIn container k t ≠ 0) :
    ∃ e, (s.performAll w [.revoke container kind]).1 = [.error e] := by
  have hg := Disk.fileIs_some_iff.mp hfile
  obtain ⟨e, d', hrun⟩ := DiskM.replace_of_not_takesTemp htemp (without container k t)
  refine ⟨.disk e, ?_⟩
  simp only [performAll, perform, run_revoke, hk, Disk.textAt_of_file hl hg hread, if_neg hc, hrun]
  rfl

/-- A name that a file can have, but no temporary file for it. -/
def longName : String := String.ofList (List.replicate 250 'a')

/-- A file of grants of such a name. -/
def longStore : Store := ⟨⟨.slash, ["vbox", "d", longName]⟩⟩

def longDisk : Disk where
  nodes := [
    ([], .dir 0o755),
    (["vbox"], .dir 0o755),
    (["vbox", "cwd"], .dir 0o755),
    (["vbox", "d"], .dir 0o755),
    (["vbox", "d", longName], .file 0o644 "dev:gpu:1\n".toUTF8)]
  cwd := ["vbox", "cwd"]

theorem utf8ByteSize_longName : longName.utf8ByteSize = 250 := by decide +kernel

theorem longName_ne_up : longName ≠ ".." := by
  intro h
  have hsize := utf8ByteSize_longName
  rw [h] at hsize
  exact absurd hsize (by decide)

theorem place_longDisk : longDisk.place longStore.path = ["vbox", "d", longName] := by
  simp [Disk.place_eq, longStore, Loc.follow, longName_ne_up, Path.isAbsolute]

theorem wellFormed_longDisk : longDisk.WellFormed := by
  apply Disk.wellFormed_of_isTree
  simp [Disk.isTree, longDisk, Disk.get?, Disk.nodeAt, Node.isDir, Ne.symm longName_ne_up]

theorem locate_longDisk : longDisk.locate longStore.path = .ok (longDisk.place longStore.path) := by
  have hnul : longStore.path.hasNul = false := by
    have hname (n : Nat) : '\x00' ∉ (String.ofList (List.replicate n 'a')).toList := by simp
    have hlong : '\x00' ∉ longName.toList := hname 250
    simp [Path.hasNul, longStore, hlong]
  have hsize : longStore.path.text.utf8ByteSize ≤ Disk.maxPath := by
    have htext : longStore.path.text = "/" ++ ("vbox" ++ "/" ++ ("d" ++ "/" ++ longName)) := by
      simp only [Path.text, longStore, Root.text, reduceCtorEq, false_and, if_false,
        String.intercalate_cons_cons, String.intercalate_singleton, String.append_assoc]
    rw [htext]
    simp only [String.utf8ByteSize_append, utf8ByteSize_longName]
    decide
  have hwalk : longDisk.walk [] longStore.path.parts = .ok ["vbox", "d", longName] := by
    simp [longStore, Disk.walk, Disk.get?, Disk.nodeAt, longDisk, longName_ne_up,
      utf8ByteSize_longName]
    rfl
  rw [Disk.locate_eq_ok_iff, place_longDisk]
  exact ⟨hnul, hsize, hwalk⟩

theorem fileIs_longDisk :
    FileIs longDisk (longDisk.place longStore.path) (some (0o644, "dev:gpu:1\n")) := by
  rw [place_longDisk, Disk.fileIs_some_iff]
  simp [Disk.get?, Disk.nodeAt, longDisk]

theorem maxName_lt_longStore : Disk.maxName < longStore.path.name.utf8ByteSize + 6 := by
  have hname : longStore.path.name = longName := by simp [Path.name, longStore]
  rw [hname, utf8ByteSize_longName]
  decide

theorem not_takesTemp_longDisk : ¬ DiskM.TakesTemp longDisk longStore.path :=
  DiskM.not_takesTemp_of_longName wellFormed_longDisk maxName_lt_longStore

/-- Without room for a temporary file the store is no list: a file of a long name can be read and
written, but nothing in it can be taken back. -/
theorem not_answers_of_longName :
    ¬ ∀ (s : Store) (w : World) (m : Nat) (t : String) (calls : List Call), w.disk.WellFormed →
      w.disk.locate s.path = .ok (w.disk.place s.path) →
      FileIs w.disk (w.disk.place s.path) (some (m, t)) →
      Access.read.allowed (w.disk.place s.path) m = true →
      Access.write.allowed (w.disk.place s.path) m = true →
        (s.performAll w calls).1 = ((Ledger.ofText (some t)).run calls).1 := by
  intro h
  have hread : Access.read.allowed (longDisk.place longStore.path) 0o644 = true := by
    rw [place_longDisk]
    rfl
  have hwrite : Access.write.allowed (longDisk.place longStore.path) 0o644 = true := by
    rw [place_longDisk]
    rfl
  have hanswers := h longStore { disk := longDisk } 0o644 "dev:gpu:1\n" [.revoke "dev" "gpu"]
    wellFormed_longDisk locate_longDisk fileIs_longDisk hread hwrite
  have hkind : Kind.parse "gpu" = .ok .gpu := rfl
  have hcount : countIn "dev" .gpu "dev:gpu:1\n" ≠ 0 := by decide
  obtain ⟨e, he⟩ := revoke_of_not_takesTemp (s := longStore) (w := { disk := longDisk })
    locate_longDisk fileIs_longDisk hread not_takesTemp_longDisk hkind hcount
  rw [he] at hanswers
  cases hanswers

end Store

end BoxWarden
