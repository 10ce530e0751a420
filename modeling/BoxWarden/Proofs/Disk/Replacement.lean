import BoxWarden.Proofs.Disk.Content

/-!
Replacing the content of a file through a temporary one. There is always a free name for the
temporary file; it is never the name of the file itself; and whatever happens, nothing stands under
it in the end.
-/

namespace BoxWarden

namespace DiskM

/-- The digits of a number behind zeros determine it. -/
theorem ofDigitChars_padded (n k : Nat) :
    Nat.ofDigitChars 10 (List.replicate n '0' ++ Nat.toDigits 10 k) 0 = k := by
  rw [Nat.ofDigitChars_append, Nat.ofDigitChars_replicate_zero, Nat.mul_zero,
    Nat.ofDigitChars_ten_toDigits]

theorem toList_tempName (name : String) (k : Nat) :
    (tempName name k).toList =
      '.' :: name.toList ++ '.' :: (List.replicate (8 - (Nat.toDigits 10 k).length) '0' ++
        Nat.toDigits 10 k) ++ ".tmp".toList := by
  simp [tempName]

/-- Different numbers give different names. -/
theorem tempName_injective (name : String) {j k : Nat} (h : tempName name j = tempName name k) :
    j = k := by
  have hl := congrArg String.toList h
  rw [toList_tempName, toList_tempName, List.append_left_inj, List.append_right_inj,
    List.cons.injEq] at hl
  rw [← ofDigitChars_padded (8 - (Nat.toDigits 10 j).length) j, hl.2, ofDigitChars_padded]

/-- The name of a temporary file is longer than the one it stands in for. -/
theorem utf8ByteSize_tempName (name : String) (k : Nat) :
    name.utf8ByteSize + 6 ≤ (tempName name k).utf8ByteSize := by
  have htmp : ".tmp".utf8ByteSize = 4 := rfl
  have hdot : ".".utf8ByteSize = 1 := rfl
  simp only [tempName, String.utf8ByteSize_append, htmp, hdot]
  omega

theorem tempName_ne (name : String) (k : Nat) : tempName name k ≠ name := by
  intro h
  have hsize := utf8ByteSize_tempName name k
  rw [h] at hsize
  omega

theorem tempName_ne_up (name : String) (k : Nat) : tempName name k ≠ ".." := by
  intro h
  have hsize := utf8ByteSize_tempName name k
  have hup : "..".utf8ByteSize = 2 := rfl
  rw [h, hup] at hsize
  omega

/-- Where temporary files for a path may stand. -/
def tempPlace (d : Disk) (p : Path) (k : Nat) : Loc := d.place p.parent ++ [tempName p.name k]

/-- There are more names to try than there are nodes in the tree. -/
theorem exists_free_tempPlace (d : Disk) (p : Path) :
    ∃ k, (List.range (d.nodes.length + 1)).find?
      (fun k => (d.get? (tempPlace d p k)).isNone) = some k := by
  rw [← Option.isSome_iff_exists, Option.isSome_iff_ne_none, ne_eq, List.find?_range_eq_none]
  intro hall
  have hsub : (List.range (d.nodes.length + 1)).map (tempPlace d p) ⊆ d.nodes.map Prod.fst := by
    intro l hl
    obtain ⟨k, hk, rfl⟩ := List.mem_map.mp hl
    have htaken := hall k (List.mem_range.mp hk)
    cases hg : d.get? (tempPlace d p k) with
    | none => simp [hg] at htaken
    | some n => exact List.mem_map_of_mem (Disk.mem_of_nodeAt hg)
  have hnodup : ((List.range (d.nodes.length + 1)).map (tempPlace d p)).Nodup := by
    rw [List.Nodup, List.pairwise_map]
    refine List.nodup_range.imp fun hne heq => hne (tempName_injective p.name ?_)
    simpa [tempPlace] using heq
  have hle := hnodup.length_le_of_subset hsub
  simp only [List.length_map, List.length_range] at hle
  omega

/-- A temporary file is made under the first free name, if its directory takes it. -/
theorem run_makeTemp (d : Disk) (p : Path) :
    ∃ k, d.get? (tempPlace d p k) = none ∧ (∀ j < k, d.get? (tempPlace d p j) ≠ none) ∧
      (makeTemp p).run d =
        match d.create ⟨.slash, tempPlace d p k⟩ (.file 0o600 ByteArray.empty) with
        | .ok d' => (.ok (tempPlace d p k), d')
        | .error e => (.error e, d) := by
  obtain ⟨k, hfind⟩ := exists_free_tempPlace d p
  obtain ⟨hfree, -, hfirst⟩ := List.find?_range_eq_some.mp hfind
  refine ⟨k, by simpa using hfree, fun j hj hnone => ?_, ?_⟩
  · simpa [hnone] using hfirst j hj
  · have hfind' : (List.range (d.nodes.length + 1)).find? (fun k =>
        (d.get? (plainParts d.cwd p.parent ++ [tempName p.name k])).isNone) = some k := hfind
    have hplace : plainParts d.cwd p.parent ++ [tempName p.name k] = tempPlace d p k := rfl
    rw [makeTemp, run_bind_ok (run_get d)]
    simp only [hfind', hplace, run_bind, run_change]
    cases d.create ⟨.slash, tempPlace d p k⟩ (.file 0o600 ByteArray.empty) <;> rfl

/-- Only one name is the first that is free. -/
theorem firstFree_unique {d : Disk} {p : Path} {j k : Nat}
    (hj : d.get? (tempPlace d p j) = none) (hj' : ∀ i < j, d.get? (tempPlace d p i) ≠ none)
    (hk : d.get? (tempPlace d p k) = none) (hk' : ∀ i < k, d.get? (tempPlace d p i) ≠ none) :
    j = k := by
  rcases Nat.lt_trichotomy j k with h | h | h
  · exact absurd hj (hk' j h)
  · exact h
  · exact absurd hk (hj' k h)

/-- The place of a temporary file is the one it is asked for. -/
theorem place_tempPlace {d : Disk} (hd : d.WellFormed) (p : Path) (k : Nat) :
    d.place ⟨.slash, tempPlace d p k⟩ = tempPlace d p k := by
  have hnames : ".." ∉ tempPlace d p k := by
    simp only [tempPlace, List.mem_append, List.mem_singleton, not_or]
    exact ⟨Disk.names_place hd _, Ne.symm (tempName_ne_up _ k)⟩
  rw [Disk.place_eq, Loc.foldl_follow hnames]
  rfl

/-- A temporary file is an empty one where nothing was, or nothing. -/
theorem makeTemp_cases {d : Disk} (hd : d.WellFormed) (p : Path) :
    (∃ e, (makeTemp p).run d = (.error e, d)) ∨
      ∃ k, d.get? (tempPlace d p k) = none ∧ d.checkDirOf (tempPlace d p k) = .ok () ∧
        (makeTemp p).run d =
          (.ok (tempPlace d p k), d.put (tempPlace d p k) (.file 0o600 ByteArray.empty)) := by
  obtain ⟨k, hfree, -, hrun⟩ := run_makeTemp d p
  cases hc : d.create ⟨.slash, tempPlace d p k⟩ (.file 0o600 ByteArray.empty) with
  | error e =>
    rw [hc] at hrun
    exact .inl ⟨e, hrun⟩
  | ok d' =>
    rw [hc] at hrun
    obtain ⟨-, -, hcheck, rfl⟩ := Disk.create_eq_ok_iff.mp hc
    rw [place_tempPlace hd] at hcheck hrun
    exact .inr ⟨k, hfree, hcheck, hrun⟩

variable {d : Disk} {p : Path} {l : Loc} {m : Nat} {c : ByteArray}

/-- A temporary file can be made beside a path. -/
def TakesTemp (d : Disk) (p : Path) : Prop := ∃ temp d', (makeTemp p).run d = (.ok temp, d')

/-- It depends on the first free name alone. -/
theorem takesTemp_iff (hd : d.WellFormed) :
    TakesTemp d p ↔ ∃ k, d.get? (tempPlace d p k) = none ∧
      (∀ j < k, d.get? (tempPlace d p j) ≠ none) ∧
        d.locate ⟨.slash, tempPlace d p k⟩ = .ok (tempPlace d p k) ∧
          d.checkDirOf (tempPlace d p k) = .ok () := by
  obtain ⟨k, hfree, hfirst, hrun⟩ := run_makeTemp d p
  constructor
  · rintro ⟨temp, d', h⟩
    cases hc : d.create ⟨.slash, tempPlace d p k⟩ (.file 0o600 ByteArray.empty) with
    | error e =>
      rw [hrun, hc] at h
      cases h
    | ok d'' =>
      obtain ⟨hl, -, hcheck, -⟩ := Disk.create_eq_ok_iff.mp hc
      rw [place_tempPlace hd] at hl hcheck
      exact ⟨k, hfree, hfirst, hl, hcheck⟩
  · rintro ⟨j, hfree', hfirst', hl, hcheck⟩
    obtain rfl : j = k := firstFree_unique hfree' hfirst' hfree hfirst
    have hc := (Disk.create_eq_ok_iff (n := .file 0o600 ByteArray.empty)).mpr
      ⟨hl.trans (by rw [place_tempPlace hd]), by rwa [place_tempPlace hd],
        by rwa [place_tempPlace hd], rfl⟩
    rw [hc] at hrun
    exact ⟨_, _, hrun⟩

/-- A name can leave no room for the longer one of a temporary file. -/
theorem not_takesTemp_of_longName (hd : d.WellFormed)
    (h : Disk.maxName < p.name.utf8ByteSize + 6) : ¬ TakesTemp d p := by
  rw [takesTemp_iff hd]
  rintro ⟨k, -, -, hl, -⟩
  have hwalk := (Disk.locate_eq_ok_iff.mp hl).2.2
  rw [tempPlace, Disk.walk_append] at hwalk
  obtain ⟨mid, -, hlast⟩ := hwalk
  obtain ⟨-, hup | hsize, -⟩ := Disk.walk_cons.mp hlast
  · exact tempName_ne_up _ _ hup
  · have := utf8ByteSize_tempName p.name k
    omega

/-- A file is not in the way of its temporary file. -/
theorem tempPlace_ne (hp : Disk.endsInName p = true) (hl : d.locate p = .ok l) (k : Nat) :
    tempPlace d p k ≠ l := by
  rw [(Disk.locate_parent hp hl).2.1, tempPlace]
  intro h
  exact tempName_ne _ _ (List.singleton_inj.mp (List.append_inj_right' h rfl))

/-- There is room for a temporary file as long as the directories stay and the same names are
free. -/
theorem TakesTemp.of_dirsIn {d' : Disk} (hd : d.WellFormed) (hd' : d'.WellFormed)
    (h : TakesTemp d p) (hdirs : Disk.DirsIn d d')
    (hfree : ∀ k, d'.get? (tempPlace d p k) = none ↔ d.get? (tempPlace d p k) = none) :
    TakesTemp d' p := by
  obtain ⟨k, hk, hfirst, htemp, hcheck⟩ := (takesTemp_iff hd).mp h
  have hplace (j : Nat) : tempPlace d' p j = tempPlace d p j := by
    rw [tempPlace, tempPlace, hdirs.place]
  refine (takesTemp_iff hd').mpr ⟨k, ?_, fun j hj => ?_, ?_, ?_⟩
  · rw [hplace]
    exact (hfree k).mpr hk
  · rw [hplace, ne_eq, hfree]
    exact hfirst j hj
  · rw [hplace]
    exact hdirs.locate htemp
  · rw [hplace, Disk.checkDirOf_eq_ok_iff]
    obtain ⟨m, hm, hw⟩ := Disk.checkDirOf_eq_ok_iff.mp hcheck
    exact ⟨m, hdirs.dirs _ _ hm, hw⟩

/-- Whatever becomes of the file itself, there is still room for a temporary one. -/
theorem TakesTemp.of_sameBut {d' : Disk} (hd : d.WellFormed) (hd' : d'.WellFormed)
    (h : TakesTemp d p) (hp : Disk.endsInName p = true) (hl : d.locate p = .ok l)
    (hdir : ∀ m, d.get? l ≠ some (.dir m)) (hs : Disk.SameBut l d d') : TakesTemp d' p :=
  h.of_dirsIn hd hd' (hs.dirsIn hdir) fun k => by rw [hs.get? _ (tempPlace_ne hp hl k)]

/-- The directory that takes a temporary file takes the file too. -/
theorem checkDirOf_of_tempPlace {k : Nat} (hcheck : d.checkDirOf (tempPlace d p k) = .ok ())
    (hp : Disk.endsInName p = true) (hl : d.locate p = .ok l) : d.checkDirOf l = .ok () := by
  rw [Disk.checkDirOf_eq_ok_iff] at hcheck ⊢
  rwa [tempPlace, List.dropLast_concat, ← Disk.place_of_locate (Disk.locate_parent hp hl).1]
    at hcheck

theorem TakesTemp.checkDirOf (hd : d.WellFormed) (h : TakesTemp d p) (hp : Disk.endsInName p = true)
    (hl : d.locate p = .ok l) : d.checkDirOf l = .ok () := by
  obtain ⟨k, -, -, -, hcheck⟩ := (takesTemp_iff hd).mp h
  exact checkDirOf_of_tempPlace hcheck hp hl

/-- The mode of a file with a new content: the permission bits that it had, or those of a new
file. -/
def replacedMode (d : Disk) (p : Path) : Nat :=
  match d.stat p with
  | .ok n => n.mode &&& 0o777
  | .error _ => 0o644

theorem replacedMode_of_file (hl : d.locate p = .ok l) (hg : d.get? l = some (.file m c)) :
    replacedMode d p = m &&& 0o777 := by
  rw [replacedMode, Disk.stat_of_locate hl hg]
  rfl

/-- The tree in which the finished file waits to be moved. -/
def finished (d : Disk) (p : Path) (k : Nat) (text : String) : Disk :=
  d.put (tempPlace d p k) (.file (replacedMode d p) text.toUTF8)

/-- Without the finished file the tree is as it was. -/
theorem remove_finished {k : Nat} (hfree : d.get? (tempPlace d p k) = none) (text : String) :
    (finished d p k text).remove (tempPlace d p k) = d :=
  Disk.remove_put_of_none hfree _

/-- A replacement asks what the path leads to, makes a file beside it and moves that one over it. -/
theorem run_replace (d : Disk) (p : Path) (text : String) :
    (replace p text).run d = match d.holds p with
      | .error e => (.error e, d)
      | .ok _ =>
        match (makeTemp p).run d with
        | (.error e, d') => (.error e, d')
        | (.ok temp, d') =>
          let ready := d'.put temp (.file (replacedMode d p) text.toUTF8)
          match ready.move temp p with
          | .ok d'' => (.ok (), d'')
          | .error e => (.error e, ready.remove temp) := by
  have hmove (mode : Nat) : (do
      let temp ← makeTemp p
      modify (·.put temp (.file mode text.toUTF8))
      match (← get).move temp p with
      | .ok d => set d
      | .error e => do
        modify (·.remove temp)
        throw e : DiskM Unit).run d = match (makeTemp p).run d with
        | (.error e, d') => (.error e, d')
        | (.ok temp, d') =>
          let ready := d'.put temp (.file mode text.toUTF8)
          match ready.move temp p with
          | .ok d'' => (.ok (), d'')
          | .error e => (.error e, ready.remove temp) := by
    rw [run_bind]
    generalize (makeTemp p).run d = x
    obtain ⟨e | temp, d'⟩ := x
    · rfl
    · simp only [run_bind_ok (run_modify _ _), run_bind_ok (run_get _)]
      cases (d'.put temp (.file mode text.toUTF8)).move temp p <;> rfl
  rw [replace, replacedMode]
  cases hholds : d.holds p with
  | error e => rw [run_bind_error (by rw [run_ask, hholds])]
  | ok there =>
    rw [run_bind_ok (by rw [run_ask, hholds])]
    cases hstat : d.stat p with
    | ok n =>
      obtain rfl : true = there := by
        rw [Disk.holds, hstat] at hholds
        exact Except.ok.inj hholds
      rw [if_pos rfl, run_bind_ok (by rw [run_ask, hstat])]
      exact hmove _
    | error e =>
      have hnot : there = false := by
        obtain hfalse | herror := Disk.holds_of_stat_error hstat
        · rw [hfalse] at hholds
          exact (Except.ok.inj hholds).symm
        · rw [herror] at hholds
          cases hholds
      rw [if_neg (by simp [hnot])]
      exact hmove _

/-- A path leads to a file or to a place for one, and a temporary file can be made beside it. -/
structure Replaceable (d : Disk) (p : Path) : Prop where
  way : d.locate p = .ok (d.place p)
  noDir : ∀ m, d.get? (d.place p) ≠ some (.dir m)
  temp : TakesTemp d p

/-- The finished file moves over whatever the path leads to, unless that is a directory. -/
theorem move_finished_iff (hd : d.WellFormed) {k : Nat} (hfree : d.get? (tempPlace d p k) = none)
    (hcheck : d.checkDirOf (tempPlace d p k) = .ok ()) (text : String) :
    (∃ d', (finished d p k text).move (tempPlace d p k) p = .ok d') ↔
      d.locate p = .ok (d.place p) ∧ ∀ m, d.get? (d.place p) ≠ some (.dir m) := by
  have hs : Disk.SameBut (tempPlace d p k) d (finished d p k text) := Disk.sameBut_put d _ _
  have hdirs := hs.dirsIn (by simp [hfree])
  -- the finished file is no directory, so it opens no way
  have hback : Disk.DirsIn (finished d p k text) d := by
    refine ⟨hs.cwd.symm, fun j m hj => ?_⟩
    have hne : j ≠ tempPlace d p k := by
      rintro rfl
      simp [finished] at hj
    rwa [← hs.get? j hne]
  constructor
  · rintro ⟨d', hmove⟩
    obtain ⟨hl, hp, -, hdir, -⟩ := Disk.move_eq_ok_iff.mp hmove
    rw [hdirs.place] at hl hdir
    have hway := hback.locate hl
    rw [hs.get? _ (Ne.symm (tempPlace_ne hp hway k))] at hdir
    exact ⟨hway, hdir⟩
  · rintro ⟨hway, hdir⟩
    have hp := Disk.endsInName_of_locate hd hway hdir
    refine ⟨_, Disk.move_eq_ok_iff.mpr ⟨?_, hp, ?_, ?_, _, Disk.get?_put_self _ _ _, rfl⟩⟩
    · rw [hdirs.place]
      exact hdirs.locate hway
    · obtain ⟨m, hm, hw⟩ :=
        Disk.checkDirOf_eq_ok_iff.mp (checkDirOf_of_tempPlace hcheck hp hway)
      rw [hdirs.place, Disk.checkDirOf_eq_ok_iff]
      exact ⟨m, hdirs.dirs _ _ hm, hw⟩
    · rw [hdirs.place, hs.get? _ (Ne.symm (tempPlace_ne hp hway k))]
      exact hdir

/-- The finished file is all that is new once it has been moved. -/
theorem of_move_finished {d' : Disk} {k : Nat} {text : String}
    (hfree : d.get? (tempPlace d p k) = none)
    (h : (finished d p k text).move (tempPlace d p k) p = .ok d') :
    Disk.SameBut (d.place p) d d' ∧
      d'.get? (d.place p) = some (.file (replacedMode d p) text.toUTF8) := by
  obtain ⟨-, -, -, -, n, hn, rfl⟩ := Disk.move_eq_ok_iff.mp h
  rw [finished, Disk.get?_put_self, Option.some.injEq] at hn
  rw [remove_finished hfree, ← hn]
  exact ⟨Disk.sameBut_put d _ _, Disk.get?_put_self _ _ _⟩

/-- A replacement changes the file and nothing else, and a refused one changes nothing. It is refused
exactly where a file cannot be replaced. -/
theorem replace_cases (hd : d.WellFormed) (p : Path) (text : String) :
    (¬ Replaceable d p ∧ ∃ e, (replace p text).run d = (.error e, d)) ∨
      Replaceable d p ∧ ∃ d', (replace p text).run d = (.ok (), d') ∧
        Disk.SameBut (d.place p) d d' ∧
          d'.get? (d.place p) = some (.file (replacedMode d p) text.toUTF8) := by
  have hrun := run_replace d p text
  cases hholds : d.holds p with
  | error e =>
    rw [hholds] at hrun
    refine .inl ⟨fun h => ?_, e, hrun⟩
    obtain ⟨there, hthere⟩ := Disk.holds_of_locate h.way
    rw [hholds] at hthere
    cases hthere
  | ok there =>
    rw [hholds] at hrun
    obtain ⟨e, he⟩ | ⟨k, hfree, hcheck, htemp⟩ := makeTemp_cases hd p
    · simp only [he] at hrun
      refine .inl ⟨fun h => ?_, e, hrun⟩
      obtain ⟨temp, d', htemp⟩ := h.temp
      rw [he] at htemp
      cases htemp
    · simp only [htemp, Disk.put_put] at hrun
      have hiff := move_finished_iff hd hfree hcheck text
      have hremove := remove_finished hfree text
      rw [finished] at hiff hremove
      cases hmove : (d.put (tempPlace d p k) (.file (replacedMode d p) text.toUTF8)).move
          (tempPlace d p k) p with
      | error e =>
        rw [hmove, hremove] at hrun
        refine .inl ⟨fun h => ?_, e, hrun⟩
        obtain ⟨d', hd'⟩ := hiff.mpr ⟨h.way, h.noDir⟩
        rw [hmove] at hd'
        cases hd'
      | ok d' =>
        rw [hmove] at hrun
        obtain ⟨hway, hdir⟩ := hiff.mp ⟨d', hmove⟩
        exact .inr ⟨⟨hway, hdir, _, _, htemp⟩, d', hrun, of_move_finished hfree hmove⟩

/-- Without room for a temporary file, a replacement is refused. -/
theorem replace_of_not_takesTemp (h : ¬ TakesTemp d p) (text : String) :
    ∃ e d', (replace p text).run d = (.error e, d') := by
  rw [run_replace]
  cases d.holds p with
  | error e => exact ⟨e, d, rfl⟩
  | ok there =>
    cases htemp : (makeTemp p).run d with
    | mk r d' =>
      cases r with
      | error e => exact ⟨e, d', rfl⟩
      | ok temp => exact absurd ⟨temp, d', htemp⟩ h

/-- With room for a temporary file, a replacement goes through. -/
theorem replace_of_takesTemp (hd : d.WellFormed) (hl : d.locate p = .ok l)
    (hg : d.get? l = some (.file m c)) (h : TakesTemp d p) (text : String) :
    ∃ d', (replace p text).run d = (.ok (), d') := by
  have hlp := Disk.place_of_locate hl
  subst hlp
  obtain ⟨hnot, -⟩ | ⟨-, d', hrun, -⟩ := replace_cases hd p text
  · exact absurd ⟨hl, by simp [hg], h⟩ hnot
  · exact ⟨d', hrun⟩

/-- Replacing a file is all or nothing, whatever the path and whatever stands there. Either the path
holds the new content under the permission bits that the file had, or under those of a new file if
nothing was there, and no other place has changed; or the replacement is refused, and the tree is
the very same. In neither case is a temporary file left. It goes through exactly where the path
leads to a file, or to a place for one, and a temporary file can be made beside it. -/
theorem replace_all_or_nothing (hd : d.WellFormed) (p : Path) (text : String) :
    ((∃ e, (replace p text).run d = (.error e, d)) ∨
      ∃ d' mode, (replace p text).run d = (.ok (), d') ∧
        ((∃ m c, d.stat p = .ok (.file m c) ∧ mode = m &&& 0o777) ∨
          d.stat p = .error .notFound ∧ mode = 0o644) ∧
        d'.stat p = .ok (.file mode text.toUTF8) ∧ Disk.SameBut (d.place p) d d') ∧
    ((∃ d', (replace p text).run d = (.ok (), d')) ↔
      d.locate p = .ok (d.place p) ∧ (∀ m, d.get? (d.place p) ≠ some (.dir m)) ∧ TakesTemp d p) := by
  obtain ⟨hnot, e, hrun⟩ | ⟨hcan, d', hrun, hs, hfile⟩ := replace_cases hd p text
  · refine ⟨.inl ⟨e, hrun⟩, fun ⟨d', hok⟩ => ?_, fun ⟨hway, hdir, htemp⟩ => ?_⟩
    · rw [hrun] at hok
      cases hok
    · exact absurd ⟨hway, hdir, htemp⟩ hnot
  · refine ⟨.inr ⟨d', replacedMode d p, hrun, ?_, ?_, hs⟩, fun _ => ⟨hcan.way, hcan.noDir, hcan.temp⟩,
      fun _ => ⟨d', hrun⟩⟩
    · cases hg : d.get? (d.place p) with
      | none =>
        have hmissing := Disk.stat_of_missing hcan.way hg
        exact .inr ⟨hmissing, by rw [replacedMode, hmissing]⟩
      | some n =>
        cases n with
        | dir m => exact absurd hg (hcan.noDir m)
        | file m c =>
          exact .inl ⟨m, c, Disk.stat_of_locate hcan.way hg, replacedMode_of_file hcan.way hg⟩
    · have hway := (hs.dirsIn hcan.noDir).locate hcan.way
      exact Disk.stat_of_locate hway hfile

/-- A shelf with a note in a box, which has more than permission bits. -/
def shelf : Disk where
  nodes := [
    ([], .dir 0o755),
    (["box"], .dir 0o700),
    (["box", "note"], .file 0o4640 "old".toUTF8)]
  cwd := ["box"]

theorem replace_all_or_nothing_shelf :
    shelf.WellFormed ∧
      (∃ d', (replace ⟨.here, ["note"]⟩ "é").run shelf = (.ok (), d') ∧
        d'.stat ⟨.here, ["note"]⟩ = .ok (.file 0o640 "é".toUTF8) ∧
        Disk.SameBut ["box", "note"] shelf d') ∧
      ∃ e, (replace ⟨.slash, ["box"]⟩ "é").run shelf = (.error e, shelf) := by
  have hd : shelf.WellFormed := Disk.wellFormed_of_isTree (by decide)
  refine ⟨hd, ?_, ?_⟩
  · have htemp : TakesTemp shelf ⟨.here, ["note"]⟩ := ⟨_, _, rfl⟩
    have hnote : shelf.get? (shelf.place ⟨.here, ["note"]⟩) = some (.file 0o4640 "old".toUTF8) := rfl
    have hstat : shelf.stat ⟨.here, ["note"]⟩ = .ok (.file 0o4640 "old".toUTF8) := rfl
    obtain ⟨⟨e, herr⟩ | ⟨d', mode, hrun, hmode, hnew, hs⟩, hiff⟩ :=
      replace_all_or_nothing hd ⟨.here, ["note"]⟩ "é"
    · obtain ⟨d', hok⟩ := hiff.mpr ⟨rfl, by simp [hnote], htemp⟩
      rw [herr] at hok
      cases hok
    · obtain ⟨m, c, hold, rfl⟩ | ⟨hmissing, -⟩ := hmode
      · rw [hstat, Except.ok.injEq, Node.file.injEq] at hold
        rw [← hold.1] at hnew
        exact ⟨d', hrun, hnew, hs⟩
      · rw [hstat] at hmissing
        cases hmissing
  · obtain ⟨hrefused | ⟨d', mode, hrun, -⟩, hiff⟩ := replace_all_or_nothing hd ⟨.slash, ["box"]⟩ "é"
    · exact hrefused
    · exact absurd rfl ((hiff.mp ⟨d', hrun⟩).2.1 0o700)

end DiskM

end BoxWarden
