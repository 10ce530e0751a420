import BoxWarden.Proofs.Store.Torn

/-!
Grants that are taken back, as a set. What a series of revokes leaves of the file, down to the
bytes, is its lines without those of any of the grants that are named; so neither the order of the
calls nor how often each is made matters, and once a grant is taken back there is nothing more to
take. A grant that is made and taken back leaves no more than the end of a line that had none.
-/

namespace BoxWarden.Store

open Disk (FileIs)

/-- The calls that take back grants of these kinds to these containers. -/
def revokes (ps : List (String × Kind)) : List Call :=
  ps.map fun p => .revoke p.1 p.2.name

/-- How many grants an answer says were taken back. -/
def counted : Except Fault Answer → Nat
  | .ok (.revoked n) => n
  | _ => 0

/-- How many grants a series of answers says were taken back. -/
def total : List (Except Fault Answer) → Nat
  | [] => 0
  | a :: answers => counted a + total answers

/-- A line that one of the calls takes back. -/
def revokedBy (ps : List (String × Kind)) (line : String) : Bool :=
  ps.any fun p => grantsOn p.1 p.2 line

/-- A text without the lines that are taken back. -/
def left (ps : List (String × Kind)) (text : String) : String :=
  String.join ((textLines text).filter fun l => !revokedBy ps l)

/-- How many lines of a text are taken back. -/
def revokedFrom (ps : List (String × Kind)) (text : String) : Nat :=
  (textLines text).countP (revokedBy ps)

/-- The permission bits of a file from which so many lines are taken. -/
def bitsWithout (n m : Nat) : Nat := if n = 0 then m else m &&& 0o777

section Text

variable {ps qs : List (String × Kind)} {container : String} {kind : Kind}

theorem revokedBy_congr (h : ∀ p, p ∈ ps ↔ p ∈ qs) : revokedBy ps = revokedBy qs := by
  funext l
  rw [Bool.eq_iff_iff, revokedBy, revokedBy, List.any_eq_true, List.any_eq_true]
  simp only [h]

theorem textLines_left (ps : List (String × Kind)) (text : String) :
    textLines (left ps text) = (textLines text).filter fun l => !revokedBy ps l :=
  textLines_join_filter _ text

@[simp] theorem revokedFrom_nil (text : String) : revokedFrom [] text = 0 := by
  simp [revokedFrom, revokedBy]

/-- Where nothing is taken, nothing is lost. -/
theorem left_of_revokedFrom {text : String} (h : revokedFrom ps text = 0) :
    left ps text = text := by
  rw [revokedFrom, List.countP_eq_zero] at h
  rw [left, List.filter_eq_self.mpr fun l hl => by simpa using h l hl, join_textLines]

@[simp] theorem left_nil (text : String) : left [] text = text :=
  left_of_revokedFrom (revokedFrom_nil text)

/-- The first grants are taken from the text, and the others from what is left. -/
theorem left_cons (text : String) :
    left ((container, kind) :: ps) text = left ps (without container kind text) := by
  rw [left, left, textLines_without, List.filter_filter]
  congr 1
  refine List.filter_congr fun l _ => ?_
  simp [revokedBy, Bool.and_comm]

theorem countIn_eq_countP (container : String) (kind : Kind) (text : String) :
    countIn container kind text = (textLines text).countP (grantsOn container kind) := by
  rw [countIn, grantsIn, List.countP_filterMap]
  refine List.countP_congr fun l _ => ?_
  cases h : grantOn? l <;> simp [grantsOn, grants, h]

theorem revokedFrom_cons (text : String) :
    revokedFrom ((container, kind) :: ps) text =
      countIn container kind text + revokedFrom ps (without container kind text) := by
  rw [revokedFrom, revokedFrom, textLines_without, countIn_eq_countP]
  induction textLines text with
  | nil => rfl
  | cons l ls ih =>
    have hl : revokedBy ((container, kind) :: ps) l =
        (grantsOn container kind l || revokedBy ps l) := rfl
    cases hg : grantsOn container kind l <;> cases ht : revokedBy ps l <;>
      simp [hl, hg, ht, ih] <;> omega

/-- Of a grant that is taken back nothing is left. -/
theorem countIn_left {text : String} (h : (container, kind) ∈ ps) :
    countIn container kind (left ps text) = 0 := by
  rw [countIn_eq_countP, textLines_left, List.countP_eq_zero]
  intro l hl hgrants
  have hkept := (List.mem_filter.mp hl).2
  have htaken : revokedBy ps l = true := List.any_eq_true.mpr ⟨_, h, hgrants⟩
  simp [htaken] at hkept

theorem without_of_countIn {text : String} (h : countIn container kind text = 0) :
    without container kind text = text := by
  have hnone : revokedFrom [(container, kind)] text = 0 := by
    rw [revokedFrom_cons, h, revokedFrom_nil]
  rw [← left_nil (without container kind text), ← left_cons, left_of_revokedFrom hnone]

/-- What is left of a text whose last line is a grant that is taken back: the lines before it, of
which the last one has been ended. -/
theorem without_added {r : Record} (hname : isContainerName r.container = true)
    (hv : fitsLine r.value = true) (text : String) :
    without r.container r.kind (added text r.line) =
      behind (without r.container r.kind text) "" := by
  have hnew : grantsOn r.container r.kind (r.line ++ "\n") = true := by
    rw [grantsOn, grantOn?_line hname hv]
    simp [grants]
  have hend : (fun l => !grantsOn r.container r.kind l) ∘ endLine =
      fun l => !grantsOn r.container r.kind l := by
    funext l
    rw [Function.comp_apply, grantsOn, grantsOn, grantOn?_endLine]
  rw [← join_textLines (behind _ ""), textLines_behind, textLines_without, textLines_empty,
    List.append_nil, without_eq, textLines_added text (newline_not_mem_line hname hv),
    List.filter_append, List.filter_map, hend]
  simp [hnew]

/-- A line that has no end is the last one. -/
theorem getLast?_of_endLine_ne {text l : String} (hl : l ∈ textLines text) (h : endLine l ≠ l) :
    (textLines text).getLast? = some l := by
  have hne := List.ne_nil_of_mem hl
  rw [← List.dropLast_concat_getLast hne, List.mem_append, List.mem_singleton] at hl
  obtain hinit | rfl := hl
  · exact absurd (endLine_of_mem_dropLast hinit) h
  · exact List.getLast?_eq_some_getLast hne

/-- To end the last line of what is left adds nothing, unless that line is the last one of the text,
has no end, and is not taken back. -/
theorem behind_without_cases (container : String) (kind : Kind) (text : String) :
    behind (without container kind text) "" = without container kind text ∨
      behind (without container kind text) "" = without container kind text ++ "\n" ∧
        ∃ l, (textLines text).getLast? = some l ∧ l.toList.getLast? ≠ some '\n' ∧
          l ∈ textLines (without container kind text) := by
  have hjoin : behind (without container kind text) "" =
      String.join ((textLines (without container kind text)).map endLine) := by
    rw [← join_textLines (behind _ ""), textLines_behind, textLines_empty, List.append_nil]
  by_cases hsame : behind (without container kind text) "" = without container kind text
  · exact .inl hsame
  · -- so some line that is left has no end, and that can only be the last one of the text
    have hnot : ¬ ∀ l ∈ textLines (without container kind text), endLine l = l := by
      intro hall
      rw [hjoin, List.map_congr_left hall, List.map_id', join_textLines] at hsame
      exact hsame rfl
    obtain ⟨l, hl⟩ := Classical.not_forall.mp hnot
    obtain ⟨hl, hopen⟩ := Classical.not_imp.mp hl
    have hmem : l ∈ textLines text := by
      rw [textLines_without] at hl
      exact (List.mem_filter.mp hl).1
    refine .inr ⟨?_, l, getLast?_of_endLine_ne hmem hopen, ?_, hl⟩
    · have hgap (c : ByteArray) : DiskM.gap c = "" ∨ DiskM.gap c = "\n" := by
        unfold DiskM.gap
        split <;> simp
      rw [behind_eq, String.append_empty] at hsame ⊢
      obtain hnone | hend := hgap (without container kind text).toUTF8
      · rw [hnone, String.append_empty] at hsame
        exact absurd rfl hsame
      · rw [hend]
    · obtain hclosed | ⟨-, hopen'⟩ := endLine_cases l
      · exact absurd hclosed hopen
      · exact hopen'

theorem bitsWithout_bitsWithout (a b m : Nat) :
    bitsWithout b (bitsWithout a m) = bitsWithout (a + b) m := by
  unfold bitsWithout
  by_cases ha : a = 0
  · rw [if_pos ha, ha, Nat.zero_add]
  · by_cases hb : b = 0
    · rw [if_pos hb, hb, Nat.add_zero]
    · rw [if_neg hb, if_neg ha, if_neg (by omega), Nat.and_assoc, Nat.and_self]

theorem bitsWithout_and (n m : Nat) : bitsWithout n m &&& 0o777 = m &&& 0o777 := by
  unfold bitsWithout
  split
  · rfl
  · rw [Nat.and_assoc, Nat.and_self]

end Text

variable {s : Store} {w : World} {d d' : Disk} {m : Nat} {t : String}

/-- Calls that change nothing, each on its own, change nothing as a series. -/
theorem performAll_of_still {calls : List Call} (h : ∀ call ∈ calls, (s.perform w call).2 = w) :
    s.performAll w calls = (calls.map fun call => (s.perform w call).1, w) := by
  induction calls with
  | nil => rfl
  | cons call calls ih =>
    obtain ⟨hcall, hcalls⟩ := List.forall_mem_cons.mp h
    rw [performAll_cons, hcall, ih hcalls, List.map_cons]

theorem total_eq_zero {answers : List (Except Fault Answer)} (h : ∀ a ∈ answers, counted a = 0) :
    total answers = 0 := by
  induction answers with
  | nil => rfl
  | cons a answers ih =>
    obtain ⟨ha, hanswers⟩ := List.forall_mem_cons.mp h
    rw [total, ha, ih hanswers]

theorem performAll_revokes_of_still {ps : List (String × Kind)}
    (h : ∀ p ∈ ps, ∃ a, s.perform w (.revoke p.1 p.2.name) = (a, w) ∧ counted a = 0) :
    s.performAll w (revokes ps) = (ps.map fun p => (s.perform w (.revoke p.1 p.2.name)).1, w) ∧
      total (s.performAll w (revokes ps)).1 = 0 := by
  have hrun : s.performAll w (revokes ps) =
      (ps.map fun p => (s.perform w (.revoke p.1 p.2.name)).1, w) := by
    rw [performAll_of_still fun call hcall => ?_, revokes, List.map_map]
    · rfl
    · obtain ⟨p, hp, rfl⟩ := List.mem_map.mp hcall
      obtain ⟨a, hperform, -⟩ := h p hp
      rw [hperform]
  refine ⟨hrun, ?_⟩
  rw [hrun]
  refine total_eq_zero fun a ha => ?_
  obtain ⟨p, hp, rfl⟩ := List.mem_map.mp ha
  obtain ⟨a, hperform, ha⟩ := h p hp
  rw [hperform, ha]

/-- Where there is no grant to take back, the file is not touched. -/
theorem perform_revoke_of_none {container : String} {kind : Kind}
    (ht : w.disk.textAt s.path = .ok t) (hc : countIn container kind t = 0) :
    s.perform w (.revoke container kind.name) = (.ok (.revoked 0), w) := by
  rw [perform, run_revoke, Kind.parse_name]
  simp only [ht, if_pos hc]
  rfl

/-- The file of a store is a text that can be read and that grants can be taken from. -/
structure Yields (s : Store) (d : Disk) (m : Nat) (t : String) : Prop where
  room : Room s d
  file : FileIs d (d.place s.path) (some (m, t))
  read : Access.read.allowed (d.place s.path) m = true

theorem Yields.textAt (h : Yields s d m t) : d.textAt s.path = .ok t :=
  Disk.textAt_of_file h.room.way (Disk.fileIs_some_iff.mp h.file) h.read

/-- A text that is put in the place of the file yields, too. -/
theorem Room.yields (h : Room s d) (hs : Disk.SameBut (d.place s.path) d d') (hd' : d'.WellFormed)
    (hfile : FileIs d' (d.place s.path) (some (m, t)))
    (hread : Access.read.allowed (d.place s.path) m = true) : Yields s d' m t := by
  have hplace := h.toWay.place_of_sameBut hs
  have hdir : ∀ m', d'.get? (d.place s.path) ≠ some (.dir m') := by
    simp [Disk.fileIs_some_iff.mp hfile]
  refine ⟨h.of_sameBut hs hd' (hplace ▸ hdir), ?_, ?_⟩ <;> rwa [hplace]

/-- Taking back one kind of grant leaves the text without it, and the file as it was if there is
none. -/
theorem Yields.revoke (h : Yields s w.disk m t) (container : String) (kind : Kind) :
    ∃ w', s.perform w (.revoke container kind.name) =
        (.ok (.revoked (countIn container kind t)), w') ∧
      Disk.SameBut (w.disk.place s.path) w.disk w'.disk ∧
      Yields s w'.disk (bitsWithout (countIn container kind t) m) (without container kind t) := by
  by_cases hc : countIn container kind t = 0
  · refine ⟨w, ?_, ⟨rfl, fun _ _ => rfl⟩, ?_⟩
    · rw [perform_revoke_of_none h.textAt hc, hc]
    · rwa [without_of_countIn hc, bitsWithout, if_pos hc]
  · have hg := Disk.fileIs_some_iff.mp h.file
    obtain ⟨d', hrun⟩ := DiskM.replace_of_takesTemp h.room.wellFormed h.room.way hg h.room.temp
      (without container kind t)
    obtain ⟨hd', hs, hfile⟩ := replace_ok h.room.wellFormed h.room.way hg hrun
    rw [perform, run_revoke, Kind.parse_name]
    simp only [h.textAt, if_neg hc, hrun]
    refine ⟨_, rfl, ?_, ?_⟩
    · simpa using hs
    · rw [bitsWithout, if_neg hc]
      simpa using h.room.yields hs hd' hfile ((allowed_and _ _ _).trans h.read)

/-- A series of revokes leaves the lines that none of them takes. The induction is on the series;
what it carries is that the file still yields. -/
theorem Yields.revokes (h : Yields s w.disk m t) (ps : List (String × Kind)) :
    (∀ a ∈ (s.performAll w (revokes ps)).1, ∃ n, a = .ok (.revoked n)) ∧
      total (s.performAll w (revokes ps)).1 = revokedFrom ps t ∧
      Disk.SameBut (w.disk.place s.path) w.disk (s.performAll w (revokes ps)).2.disk ∧
      Yields s (s.performAll w (revokes ps)).2.disk (bitsWithout (revokedFrom ps t) m)
        (left ps t) := by
  induction ps generalizing w m t with
  | nil =>
    rw [revokedFrom_nil, left_nil]
    exact ⟨nofun, rfl, ⟨rfl, fun _ _ => rfl⟩, h⟩
  | cons p ps ih =>
    obtain ⟨container, kind⟩ := p
    obtain ⟨w', hrun, hs, hyields⟩ := h.revoke container kind
    obtain ⟨hanswers, hsum, hs', hyields'⟩ := ih hyields
    have hall : s.performAll w (Store.revokes ((container, kind) :: ps)) =
        (.ok (.revoked (countIn container kind t)) :: (s.performAll w' (Store.revokes ps)).1,
          (s.performAll w' (Store.revokes ps)).2) := by
      rw [Store.revokes, List.map_cons, performAll_cons, hrun]
      rfl
    rw [h.room.toWay.place_of_sameBut hs] at hs'
    rw [hall, revokedFrom_cons, left_cons, ← bitsWithout_bitsWithout]
    refine ⟨?_, ?_, hs.trans hs', hyields'⟩
    · exact List.forall_mem_cons.mpr ⟨⟨_, rfl⟩, hanswers⟩
    · rw [total, hsum]
      rfl

/-- A text that says something can be taken from where there is room for a temporary file. -/
theorem exists_yields (hd : d.WellFormed) (ht : d.textAt s.path = .ok t) (hne : t ≠ "")
    (htemp : DiskM.TakesTemp d s.path) : ∃ m, Yields s d m t := by
  obtain ⟨hl, m, hg, hread⟩ := Disk.readText_eq_ok_iff.mp (Disk.readText_of_textAt ht hne)
  exact ⟨m, ⟨hd, hl, by simp [hg], htemp⟩, Disk.fileIs_some_iff.mpr hg, hread⟩

/-- Either grants can be taken from the file, or no revoke does anything: the file cannot be read,
or says nothing, or leaves no room for a temporary one. -/
theorem yields_or_still (hd : w.disk.WellFormed) :
    (∃ m t, Yields s w.disk m t) ∨ ∀ container (kind : Kind), ∃ a,
      s.perform w (.revoke container kind.name) = (a, w) ∧ counted a = 0 := by
  cases ht : w.disk.textAt s.path with
  | error e =>
    refine .inr fun container kind => ⟨.error (.disk e), ?_, rfl⟩
    rw [perform, run_revoke, Kind.parse_name]
    simp only [ht]
    rfl
  | ok t =>
    by_cases hyields : t ≠ "" ∧ DiskM.TakesTemp w.disk s.path
    · obtain ⟨m, h⟩ := exists_yields hd ht hyields.1 hyields.2
      exact .inl ⟨m, t, h⟩
    · refine .inr fun container kind => ?_
      by_cases hc : countIn container kind t = 0
      · exact ⟨_, perform_revoke_of_none ht hc, rfl⟩
      · have hne : t ≠ "" := by
          rintro rfl
          exact hc rfl
        obtain ⟨-, e, hrun⟩ | ⟨hcan, -⟩ :=
          DiskM.replace_cases hd s.path (without container kind t)
        · refine ⟨.error (.disk e), ?_, rfl⟩
          rw [perform, run_revoke, Kind.parse_name]
          simp only [ht, if_neg hc, hrun]
          rfl
        · exact absurd ⟨hne, hcan.temp⟩ hyields

/-- Two series that take back the same lines lead to the same tree and count the same. -/
theorem same_of_revokes (hd : w.disk.WellFormed) {ps qs : List (String × Kind)}
    (hsame : ∀ p, p ∈ ps ↔ p ∈ qs) :
    Disk.Same (s.performAll w (revokes ps)).2.disk (s.performAll w (revokes qs)).2.disk ∧
      total (s.performAll w (revokes ps)).1 =
        total (s.performAll w (revokes qs)).1 := by
  obtain ⟨m, t, h⟩ | hstill := yields_or_still (s := s) hd
  · have hleft : left ps t = left qs t := by rw [left, left, revokedBy_congr hsame]
    have hfrom : revokedFrom ps t = revokedFrom qs t := by
      rw [revokedFrom, revokedFrom, revokedBy_congr hsame]
    obtain ⟨-, hsum, hs, hyields⟩ := h.revokes ps
    obtain ⟨-, hsum', hs', hyields'⟩ := h.revokes qs
    refine ⟨(hs.symm.trans hs').same ?_, hsum.trans (hfrom.trans hsum'.symm)⟩
    -- at the place of the file, the lines and how many are taken say all
    have hfile := Disk.fileIs_some_iff.mp hyields.file
    have hfile' := Disk.fileIs_some_iff.mp hyields'.file
    rw [h.room.toWay.place_of_sameBut hs] at hfile
    rw [h.room.toWay.place_of_sameBut hs'] at hfile'
    rw [hfile, hfile', hleft, hfrom]
  · have hall (rs : List (String × Kind)) : ∀ p ∈ rs, ∃ a,
        s.perform w (.revoke p.1 p.2.name) = (a, w) ∧ counted a = 0 := fun p _ => hstill p.1 p.2
    obtain ⟨hrun, hsum⟩ := performAll_revokes_of_still (hall ps)
    obtain ⟨hrun', hsum'⟩ := performAll_revokes_of_still (hall qs)
    refine ⟨?_, hsum.trans hsum'.symm⟩
    rw [hrun, hrun']
    exact Disk.Same.refl _

/-- What a series of revokes leaves of a text that can be read: the lines that none of them takes,
and each of the others is counted once. -/
theorem revokes_of_textAt (hd : w.disk.WellFormed) (ht : w.disk.textAt s.path = .ok t)
    {ps : List (String × Kind)} (htemp : revokedFrom ps t ≠ 0 → DiskM.TakesTemp w.disk s.path) :
    (∀ a ∈ (s.performAll w (revokes ps)).1, ∃ n, a = .ok (.revoked n)) ∧
      total (s.performAll w (revokes ps)).1 = revokedFrom ps t ∧
      (s.performAll w (revokes ps)).2.disk.textAt s.path = .ok (left ps t) := by
  by_cases hnone : revokedFrom ps t = 0
  · -- with nothing to take, no temporary file is needed
    have hrevoke : ∀ p ∈ ps, s.perform w (.revoke p.1 p.2.name) = (.ok (.revoked 0), w) := by
      intro p hp
      have hc : countIn p.1 p.2 (left ps t) = 0 := countIn_left hp
      rw [left_of_revokedFrom hnone] at hc
      exact perform_revoke_of_none ht hc
    obtain ⟨hrun, hsum⟩ := performAll_revokes_of_still fun p hp => ⟨_, hrevoke p hp, rfl⟩
    refine ⟨?_, hsum.trans hnone.symm, ?_⟩
    · rw [hrun]
      intro a ha
      obtain ⟨p, hp, rfl⟩ := List.mem_map.mp ha
      exact ⟨0, congrArg Prod.fst (hrevoke p hp)⟩
    · rw [hrun, left_of_revokedFrom hnone]
      exact ht
  · have hne : t ≠ "" := by
      rintro rfl
      exact hnone rfl
    obtain ⟨m, h⟩ := exists_yields hd ht hne (htemp hnone)
    obtain ⟨hanswers, hsum, -, hyields⟩ := h.revokes ps
    exact ⟨hanswers, hsum, hyields.textAt⟩

/-- A grant is made in two steps: its directory, and its line. -/
theorem tree_of_grant {container kind value : String} {r : Record} {w₁ : World}
    (h : s.perform w (.grant container kind value) = (.ok (.granted r), w₁)) :
    grantOf container kind value = .ok r ∧
      ∃ d₀, (DiskM.makeDirs s.path.parent 0o777 true).run w.disk = (.ok (), d₀) ∧
        (DiskM.appendLine s.path r.line).run d₀ = (.ok (), w₁.disk) := by
  rw [perform, run_grant] at h
  cases hr : grantOf container kind value with
  | error e =>
    rw [hr] at h
    cases h
  | ok r' =>
    simp only [hr] at h
    generalize (DiskM.makeDirs s.path.parent 0o777 true).run w.disk = x at h
    obtain ⟨e | u, d₀⟩ := x
    · cases h
    · simp only at h
      generalize happend : (DiskM.appendLine s.path r'.line).run d₀ = y at h
      obtain ⟨e | u, d'⟩ := y
      · cases h
      · cases h
        exact ⟨rfl, d₀, rfl, happend.trans (by simp)⟩

theorem grant_of_tree {container kind value : String} {r : Record} {d₀ d' : Disk}
    (hr : grantOf container kind value = .ok r)
    (hmake : (DiskM.makeDirs s.path.parent 0o777 true).run w.disk = (.ok (), d₀))
    (happend : (DiskM.appendLine s.path r.line).run d₀ = (.ok (), d')) :
    ∃ w₁, s.perform w (.grant container kind value) = (.ok (.granted r), w₁) ∧ w₁.disk = d' := by
  rw [perform, run_grant, hr]
  simp only [hmake, happend]
  exact ⟨_, rfl, World.disk_noted _ _⟩

/-- How a tree in which a grant was made and taken back differs from one in which it never was: by
the end of a last line that had none, or, where there was no file, by an empty one and its
directories. -/
inductive Undone (s : Store) (alone after : Disk) : Option String → Prop
  | present {m m' : Nat} {t u u' : String}
      (hs : Disk.SameBut (alone.place s.path) alone after)
      (hfile : FileIs alone (alone.place s.path) (some (m, u)))
      (hfile' : FileIs after (alone.place s.path) (some (m', u')))
      (hbits : m' &&& 0o777 = m &&& 0o777)
      (hend : u' = u ∨ u' = u ++ "\n" ∧ ∃ l, (textLines t).getLast? = some l ∧
        l.toList.getLast? ≠ some '\n' ∧ l ∈ textLines u) : Undone s alone after (some t)
  | absent {m : Nat} {d₀ : Disk} (hmade : Disk.MadeFor s.path.parent 0o777 alone d₀)
      (hs : Disk.SameBut (d₀.place s.path) d₀ after)
      (hempty : FileIs after (d₀.place s.path) (some (m, ""))) : Undone s alone after none

/-- A grant that is made and taken back is counted once more than if it had not been made. -/
theorem countIn_added {r : Record} (hname : isContainerName r.container = true)
    (hv : fitsLine r.value = true) (text : String) :
    countIn r.container r.kind (added text r.line) = countIn r.container r.kind text + 1 := by
  rw [countIn_eq, countIn_eq, grantsIn_added text hname hv, List.filter_append, List.length_append]
  simp [grants]

/-- A grant that was made where there is room is taken back: the file has the text that it would
have without the grant, with its last line ended. -/
theorem Room.revoke_granted {r : Record} {w₁ : World} {f : Option (Nat × String)} (h : Room s d)
    (hname : isContainerName r.container = true) (hv : fitsLine r.value = true)
    (hfile : FileIs d (d.place s.path) f) (hline : withLine r.line f = (m, added t r.line))
    (hread : Access.read.allowed (d.place s.path) m = true)
    (happend : (DiskM.appendLine s.path r.line).run d = (.ok (), w₁.disk)) :
    ∃ m' after, s.perform w₁ (.revoke r.container r.kind.name) =
        (.ok (.revoked (countIn r.container r.kind t + 1)), after) ∧
      m' &&& 0o777 = m &&& 0o777 ∧ Disk.SameBut (d.place s.path) d after.disk ∧
      FileIs after.disk (d.place s.path)
        (some (m', behind (without r.container r.kind t) "")) := by
  obtain ⟨hd', hs, hnew⟩ := appendLine_ok h.wellFormed happend
  have hfile' := hnew f hfile
  rw [hline] at hfile'
  obtain ⟨after, hafter, hsafter, hyields⟩ :=
    (h.yields hs hd' hfile' hread).revoke r.container r.kind
  rw [h.toWay.place_of_sameBut hs] at hsafter
  have hempty := hyields.file
  rw [h.toWay.place_of_sameBut (hs.trans hsafter), without_added hname hv] at hempty
  rw [countIn_added hname hv] at hafter
  exact ⟨_, after, hafter, bitsWithout_and _ _, hs.trans hsafter, hempty⟩

theorem undone_of_grant {f : Option String} {container kind value : String} {r : Record}
    {w₁ : World} (h : Holding s w.disk f)
    (hgrant : s.perform w (.grant container kind value) = (.ok (.granted r), w₁)) :
    ∃ n alone after, s.perform w (.revoke container kind) = (.ok (.revoked n), alone) ∧
      s.perform w₁ (.revoke container kind) = (.ok (.revoked (n + 1)), after) ∧
        Undone s alone.disk after.disk f := by
  obtain ⟨hr, d₀, hmake, happend⟩ := tree_of_grant hgrant
  obtain ⟨rfl, rfl, -, hname, hv⟩ := grantOf_eq_ok_iff.mp hr
  cases h with
  | @missing d₁ hd hmake' hroom hnone =>
    rw [hmake'] at hmake
    obtain rfl := (Prod.mk.inj hmake).2
    have hmade := DiskM.madeFor_makeDirs s.path.parent 0o777 true w.disk
    rw [hmake'] at hmade
    have htext : w.disk.textAt s.path = .ok "" := hroom.toWay.textAt_of_missing hmake' hnone
    have hread := allowed_newFile hroom.toWay.place_ne_top .read (by simp) (.inl rfl)
    obtain ⟨m', after, hafter, -, hs, hfile⟩ :=
      hroom.revoke_granted hname hv (.of_none hnone) rfl hread happend
    have hbehind : behind "" "" = "" := by simp [behind]
    rw [without_of_countIn rfl, hbehind] at hfile
    exact ⟨_, w, after, perform_revoke_of_none htext rfl, hafter, .absent hmade hs hfile⟩
  | @present m t hroom hfile hread hwrite =>
    rw [hroom.toWay.makeDirs] at hmake
    obtain rfl := (Prod.mk.inj hmake).2
    obtain ⟨alone, halone, hsalone, hyields⟩ :=
      Yields.revoke ⟨hroom, hfile, hread⟩ r.container r.kind
    obtain ⟨m', after, hafter, hbits, hs, hfile'⟩ :=
      hroom.revoke_granted hname hv hfile rfl hread happend
    have hplace := hroom.toWay.place_of_sameBut hsalone
    rw [← hplace] at hsalone hs hfile'
    refine ⟨_, alone, after, halone, hafter,
      .present (hsalone.symm.trans hs) hyields.file hfile' ?_ (behind_without_cases _ _ t)⟩
    rw [hbits, bitsWithout_and]

/-- Revokes are a set. Two series that name the same kinds of the same containers, in whatever order
and however often, lead to the same tree and count the same, whatever the file is. If it can be
read, and a temporary file can be made beside it where there is anything to take, all of them
succeed; they count the lines that they name, leave all the others, and to make one of them again
counts none and does nothing at all. And where a grant is made and taken back, it is counted once
more than if it had not been made, and no more is left of it than the end of a last line that had
none, or an empty file where there was none before. -/
theorem revokes_are_a_set {s : Store} {w : World} (hd : w.disk.WellFormed) :
    (∀ ps qs, (∀ p, p ∈ ps ↔ p ∈ qs) →
      Disk.Same (s.performAll w (revokes ps)).2.disk (s.performAll w (revokes qs)).2.disk ∧
        total (s.performAll w (revokes ps)).1 =
          total (s.performAll w (revokes qs)).1) ∧
    (∀ t ps, w.disk.textAt s.path = .ok t →
      (revokedFrom ps t ≠ 0 → DiskM.TakesTemp w.disk s.path) →
        ∃ answers w', s.performAll w (revokes ps) = (answers, w') ∧
          (∀ a ∈ answers, ∃ n, a = .ok (.revoked n)) ∧
          total answers = revokedFrom ps t ∧
          w'.disk.textAt s.path = .ok (left ps t) ∧
          ∀ p ∈ ps, s.perform w' (.revoke p.1 p.2.name) = (.ok (.revoked 0), w')) ∧
    ∀ f container kind value r w₁, Holding s w.disk f →
      s.perform w (.grant container kind value) = (.ok (.granted r), w₁) →
        ∃ n alone after, s.perform w (.revoke container kind) = (.ok (.revoked n), alone) ∧
          s.perform w₁ (.revoke container kind) = (.ok (.revoked (n + 1)), after) ∧
            Undone s alone.disk after.disk f := by
  refine ⟨fun ps qs hsame => same_of_revokes hd hsame, ?_,
    fun f container kind value r w₁ h hgrant => undone_of_grant h hgrant⟩
  intro t ps ht htemp
  obtain ⟨hanswers, hsum, htext⟩ := revokes_of_textAt hd ht htemp
  exact ⟨_, _, rfl, hanswers, hsum, htext,
    fun p hp => perform_revoke_of_none htext (countIn_left hp)⟩

theorem revokes_are_a_set_desk :
    desk.WellFormed ∧
      (∃ answers w',
        deskStore.performAll { disk := desk } (revokes [("dev", .gpu), ("dev", .gpu)]) =
          (answers, w') ∧ total answers = 1 ∧
          w'.disk.textAt deskStore.path = .ok "# mine\r\n") ∧
      ∃ n alone after,
        deskStore.perform { disk := desk } (.revoke "dev" "network") = (.ok (.revoked n), alone) ∧
          deskStore.perform (deskStore.perform { disk := desk } (.grant "dev" "network" "host")).2
            (.revoke "dev" "network") = (.ok (.revoked (n + 1)), after) ∧
          Undone deskStore alone.disk after.disk (some "# mine\r\ndev:gpu:1") := by
  have htemp : DiskM.TakesTemp desk deskStore.path := by
    cases holding_desk with
    | present hroom => exact hroom.temp
  obtain ⟨-, hseries, hgrant⟩ :=
    revokes_are_a_set (s := deskStore) (w := { disk := desk }) wellFormed_desk
  refine ⟨wellFormed_desk, ?_, ?_⟩
  · obtain ⟨answers, w', hrun, -, hsum, htext, -⟩ :=
      hseries _ [("dev", .gpu), ("dev", .gpu)] holding_desk.textAt fun _ => htemp
    have hleft : left [("dev", .gpu), ("dev", .gpu)] "# mine\r\ndev:gpu:1" = "# mine\r\n" := by
      decide
    exact ⟨answers, w', hrun, hsum.trans (by decide), htext.trans (congrArg Except.ok hleft)⟩
  · have hgranted := (grant_agrees (w := { disk := desk }) holding_desk "dev" "network" "host").1
    exact hgrant _ _ _ _ _ _ holding_desk (Prod.ext hgranted rfl)

/-- Where no temporary file can be made, no revoke does anything. -/
theorem perform_revoke_of_not_takesTemp (hd : w.disk.WellFormed)
    (htemp : ¬ DiskM.TakesTemp w.disk s.path) (container : String) (kind : Kind) :
    (s.perform w (.revoke container kind.name)).2 = w := by
  obtain ⟨m, t, h⟩ | hstill := yields_or_still (s := s) hd
  · exact absurd h.room.temp htemp
  · obtain ⟨a, hrun, -⟩ := hstill container kind
    rw [hrun]

/-- Two files have the same bytes, but perhaps for a newline at the end of the second. -/
def SameBytes (l : Loc) (alone after : Disk) : Prop :=
  ∃ m u m' u', FileIs alone l (some (m, u)) ∧ FileIs after l (some (m', u')) ∧
    (u' = u ∨ u' = u ++ "\n")

theorem sameBytes_iff {l : Loc} {alone after : Disk} {m m' : Nat} {u u' : String}
    (h : FileIs alone l (some (m, u))) (h' : FileIs after l (some (m', u'))) :
    SameBytes l alone after ↔ u' = u ∨ u' = u ++ "\n" := by
  constructor
  · rintro ⟨m₁, v, m₁', v', hv, hv', hend⟩
    obtain ⟨v, hv, hbytes⟩ := hv.of_file (Disk.fileIs_some_iff.mp h)
    obtain ⟨v', hv', hbytes'⟩ := hv'.of_file (Disk.fileIs_some_iff.mp h')
    cases hv
    cases hv'
    rwa [← String.toByteArray_inj.mp hbytes, ← String.toByteArray_inj.mp hbytes'] at hend
  · exact fun hend => ⟨_, _, _, _, h, h', hend⟩

theorem stands_longDisk : Stands longStore longDisk 0o644 "dev:gpu:1\n".toUTF8 := by
  have hfile := Disk.fileIs_some_iff.mp fileIs_longDisk
  refine ⟨⟨wellFormed_longDisk, locate_longDisk, by simp [hfile]⟩, hfile, ?_, ?_⟩
  · rw [place_longDisk]
    rfl
  · rw [place_longDisk]
    rfl

/-- A grant to a file of a long name cannot be taken back. -/
theorem not_sameBytes_longDisk : ∃ w₁,
    longStore.perform { disk := longDisk } (.grant "dev" "gpu" "1") =
      (.ok (.granted ⟨"dev", .gpu, "1"⟩), w₁) ∧
    ¬ SameBytes (longDisk.place longStore.path)
      (longStore.perform { disk := longDisk } (.revoke "dev" "gpu")).2.disk
      (longStore.perform w₁ (.revoke "dev" "gpu")).2.disk := by
  have hr : grantOf "dev" "gpu" "1" = .ok ⟨"dev", .gpu, "1"⟩ := rfl
  obtain ⟨w₁, hrun, hstands⟩ := Stands.grant (w := { disk := longDisk }) stands_longDisk hr
  rw [← toUTF8_added] at hstands
  refine ⟨w₁, by rw [perform, hrun]; rfl, ?_⟩
  have hstill := perform_revoke_of_not_takesTemp (w := { disk := longDisk }) wellFormed_longDisk
    not_takesTemp_longDisk "dev" .gpu
  have hstill₁ := perform_revoke_of_not_takesTemp hstands.way.wellFormed
    (DiskM.not_takesTemp_of_longName hstands.way.wellFormed maxName_lt_longStore) "dev" .gpu
  have hname : Kind.gpu.name = "gpu" := rfl
  rw [hname] at hstill hstill₁
  have hfile₁ : FileIs w₁.disk (longDisk.place longStore.path)
      (some (0o644, added "dev:gpu:1\n" "dev:gpu:1")) := by
    have habs : longStore.path.isAbsolute = true := rfl
    have hplace : longDisk.place longStore.path = w₁.disk.place longStore.path := by
      simp only [Disk.place_eq, habs, if_true]
    rw [hplace]
    exact Disk.fileIs_some_iff.mpr hstands.file
  rw [hstill, hstill₁, sameBytes_iff fileIs_longDisk hfile₁]
  decide

/-- A tree in which the way to a file of grants leads over a directory that is missing. -/
def detour : Disk where
  nodes := [
    ([], .dir 0o755),
    (["home"], .dir 0o755),
    (["home", "p.conf"], .file 0o644 "dev:gpu:1\n".toUTF8)]
  cwd := ["home"]

def detourStore : Store := ⟨⟨.here, ["a", "..", "p.conf"]⟩⟩

/-- The tree with that directory. -/
def openDetour : Disk := detour.put ["home", "a"] (.dir 0o755)

theorem wellFormed_detour : detour.WellFormed := Disk.wellFormed_of_isTree (by decide)

theorem fileIs_detour :
    FileIs detour (detour.place detourStore.path) (some (0o644, "dev:gpu:1\n")) := rfl

theorem takesTemp_detour : DiskM.TakesTemp detour detourStore.path := ⟨_, _, rfl⟩

theorem fileIs_openDetour :
    FileIs openDetour (openDetour.place detourStore.path) (some (0o644, "dev:gpu:1\n")) := rfl

theorem room_openDetour : Room detourStore openDetour where
  wellFormed := Disk.wellFormed_of_isTree (by decide)
  way := rfl
  noDir := by simp [Disk.fileIs_some_iff.mp fileIs_openDetour]
  temp := ⟨_, _, rfl⟩

/-- Where a grant makes a directory on the way to a file that is there, the file is found only
then, and more is taken back from it than was granted. -/
theorem not_sameBytes_detour : ∃ w₁,
    detourStore.perform { disk := detour } (.grant "dev" "gpu" "1") =
      (.ok (.granted ⟨"dev", .gpu, "1"⟩), w₁) ∧
    ¬ SameBytes (detour.place detourStore.path)
      (detourStore.perform { disk := detour } (.revoke "dev" "gpu")).2.disk
      (detourStore.perform w₁ (.revoke "dev" "gpu")).2.disk := by
  have hmake : (DiskM.makeDirs detourStore.path.parent 0o777 true).run detour =
      (.ok (), openDetour) := rfl
  have happend := DiskM.run_appendLine_of_file room_openDetour.way
    (Disk.fileIs_some_iff.mp fileIs_openDetour) (Record.line ⟨"dev", .gpu, "1"⟩)
  rw [if_pos (by decide)] at happend
  have hr : grantOf "dev" "gpu" "1" = .ok ⟨"dev", .gpu, "1"⟩ := rfl
  obtain ⟨w₁, hrun, hdisk⟩ := grant_of_tree (w := { disk := detour }) hr hmake happend
  rw [← hdisk] at happend
  obtain ⟨m', after, hafter, -, -, hfile⟩ := room_openDetour.revoke_granted
    (r := ⟨"dev", .gpu, "1"⟩) (by decide) (by decide) fileIs_openDetour rfl (by decide) happend
  have halone := @perform_revoke_of_none detourStore { disk := detour } "" "dev" .gpu
    (Disk.textAt_of_not_holds rfl) rfl
  have hname : Kind.gpu.name = "gpu" := rfl
  rw [hname] at halone hafter
  refine ⟨w₁, hrun, ?_⟩
  rw [halone, hafter, sameBytes_iff fileIs_detour hfile]
  decide

/-- Without room for a temporary file, or without a way to the file, a grant that is made and taken
back need not leave the file as if it had not been made. -/
theorem not_sameBytes_of_grant :
    (¬ ∀ (s : Store) (w w₁ : World) (m : Nat) (t container kind value : String) (r : Record),
      w.disk.WellFormed → w.disk.locate s.path = .ok (w.disk.place s.path) →
      FileIs w.disk (w.disk.place s.path) (some (m, t)) →
      Access.read.allowed (w.disk.place s.path) m = true →
      Access.write.allowed (w.disk.place s.path) m = true →
      s.perform w (.grant container kind value) = (.ok (.granted r), w₁) →
        SameBytes (w.disk.place s.path) (s.perform w (.revoke container kind)).2.disk
          (s.perform w₁ (.revoke container kind)).2.disk) ∧
    ¬ ∀ (s : Store) (w w₁ : World) (m : Nat) (t container kind value : String) (r : Record),
      w.disk.WellFormed → DiskM.TakesTemp w.disk s.path →
      FileIs w.disk (w.disk.place s.path) (some (m, t)) →
      Access.read.allowed (w.disk.place s.path) m = true →
      Access.write.allowed (w.disk.place s.path) m = true →
      s.perform w (.grant container kind value) = (.ok (.granted r), w₁) →
        SameBytes (w.disk.place s.path) (s.perform w (.revoke container kind)).2.disk
          (s.perform w₁ (.revoke container kind)).2.disk := by
  constructor
  · intro h
    obtain ⟨w₁, hgrant, hnot⟩ := not_sameBytes_longDisk
    exact hnot (h _ { disk := longDisk } w₁ _ _ _ _ _ _ stands_longDisk.way.wellFormed
      stands_longDisk.way.leads fileIs_longDisk stands_longDisk.read stands_longDisk.write hgrant)
  · intro h
    obtain ⟨w₁, hgrant, hnot⟩ := not_sameBytes_detour
    exact hnot (h _ { disk := detour } w₁ _ _ _ _ _ _ wellFormed_detour takesTemp_detour
      fileIs_detour (by decide) (by decide) hgrant)

end BoxWarden.Store
