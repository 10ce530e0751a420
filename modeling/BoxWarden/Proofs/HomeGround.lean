import BoxWarden.Proofs.Containment
import BoxWarden.Proofs.Disk.Tidy

/-!
The directory of the homes when it is there or can be made, and is open to the user. Then the place
of a home in it is settled: the home is put there, unless something stands there.
-/

namespace BoxWarden.Homes

open Session

/-- The directory of the homes is there in a tree or can be made in it. -/
structure Start (env : Environment) (p : Path) (d d₀ : Disk) : Prop where
  dir : Homes.dir env = .ok p
  wellFormed : d.WellFormed
  tidy : d.Tidy
  made : (DiskM.makeDirs p 0o777 true).run d = (.ok (), d₀)

/-- Homes can be kept: their directory is there or can be made, it is open to the user then, and the
longest name fits into a path below it. -/
structure Ground (env : Environment) (p : Path) (d d₀ : Disk) : Prop extends Start env p d d₀ where
  access : ∀ m, d₀.get? (d₀.place p) = some (.dir m) →
    ∀ a : Access, a.allowed (d₀.place p) m = true
  room : p.text.utf8ByteSize + 1 + Disk.maxName ≤ Disk.maxPath

variable {env : Environment} {p : Path} {d d₀ : Disk} {name x : String}

namespace Ground

theorem parts (hg : Ground env p d d₀) : p.parts ≠ [] := by
  have hdir := hg.dir
  unfold Homes.dir at hdir
  cases hdata : env.dataDir with
  | error e =>
    rw [hdata] at hdir
    cases hdir
  | ok q =>
    rw [hdata] at hdir
    obtain rfl := Except.ok.inj hdir
    simp [Path.child]

theorem madeFor (hg : Ground env p d d₀) : Disk.MadeFor p 0o777 d d₀ := by
  have hmade := DiskM.madeFor_makeDirs p 0o777 true d
  rwa [hg.made] at hmade

theorem grown (hg : Ground env p d d₀) : Disk.Grown d d₀ := hg.madeFor.grown

theorem place (hg : Ground env p d d₀) (q : Path) : d₀.place q = d.place q :=
  hg.grown.dirsIn.place q

theorem wellFormed_made (hg : Ground env p d d₀) : d₀.WellFormed := by
  have hd := DiskM.wellFormed_makeDirs p 0o777 true hg.wellFormed
  rwa [hg.made] at hd

theorem tidy_made (hg : Ground env p d d₀) : d₀.Tidy := by
  have hd := hg.tidy.makeDirs hg.wellFormed p 0o777 true
  rwa [hg.made] at hd

/-- Once it is made, the directory of the homes is there. -/
theorem exists_dir_made (hg : Ground env p d d₀) : ∃ m, d₀.locate p = .ok (d₀.place p) ∧
    d₀.get? (d₀.place p) = some (.dir m) := by
  obtain ⟨m, hstat⟩ := DiskM.exists_stat_of_makeDirs hg.made
  exact ⟨m, Disk.locate_of_stat hstat⟩

/-- The way to what is in the directory is open. -/
theorem locate_child (hg : Ground env p d d₀) (hup : x ≠ "..")
    (hsize : x.utf8ByteSize ≤ Disk.maxName) (hnul : '\x00' ∉ x.toList) :
    d₀.locate (p.child x) = .ok (d₀.place p ++ [x]) := by
  obtain ⟨m, hl, hm⟩ := hg.exists_dir_made
  obtain ⟨hpnul, -, hwalk⟩ := Disk.locate_eq_ok_iff.mp hl
  refine Disk.locate_eq_ok_iff.mpr ⟨?_, ?_, ?_⟩
  · rw [Path.hasNul] at hpnul ⊢
    rw [Path.child, List.any_append, hpnul]
    simpa using hnul
  · have hroom := hg.room
    rw [Path.text_child hg.parts, String.utf8ByteSize_append, String.utf8ByteSize_append]
    change p.text.utf8ByteSize + 1 + x.utf8ByteSize ≤ Disk.maxPath
    omega
  · have habs : (p.child x).isAbsolute = p.isAbsolute := rfl
    rw [habs, Path.child, Disk.walk_append]
    refine ⟨_, hwalk, Disk.walk_cons.mpr ⟨⟨m, hm, hg.access m hm .search⟩, .inr hsize, ?_⟩⟩
    rw [Loc.follow, if_neg hup, Disk.walk]

/-- Whether the directory is there is no question that fails. -/
theorem exists_holds (hg : Ground env p d d₀) : ∃ there, d.holds p = .ok there := by
  obtain ⟨m, hl, -⟩ := hg.exists_dir_made
  rcases hg.grown.locate hl with hthere | hmissing
  · exact Disk.holds_of_locate hthere
  · exact ⟨false, by rw [Disk.holds, Disk.stat_of_locate_error hmissing]⟩

/-- Where the directory is there, nothing has to be made. -/
theorem eq_of_holds (hg : Ground env p d d₀) (hthere : d.holds p = .ok true) : d₀ = d := by
  obtain ⟨m, hl, hm⟩ := hg.exists_dir_made
  have hstat : d.stat p = .ok (.dir m) := by
    unfold Disk.holds at hthere
    split at hthere
    · next n hn =>
      obtain ⟨hl', hn'⟩ := Disk.locate_of_stat hn
      have hkept := hg.grown.kept _ n hn'
      rw [← hg.place, hm, Option.some.injEq] at hkept
      rw [hn, hkept]
    all_goals cases hthere
  exact (Prod.mk.inj (hg.made.symm.trans (DiskM.makeDirs_of_dir hstat 0o777))).2

end Ground

/-- The tree once a home is settled: it is there, or something is in its place. -/
def settle (h : Loc) (d : Disk) (name : String) : Disk :=
  match d.get? (h ++ [name]) with
  | none => d.put (h ++ [name]) (.dir mode)
  | some _ => d

theorem get?_settle (h : Loc) (d : Disk) (name : String) (l : Loc) :
    (settle h d name).get? l =
      if d.get? l = none ∧ l = h ++ [name] then some (.dir mode) else d.get? l := by
  unfold settle
  by_cases hl : h ++ [name] = l
  · subst hl
    cases hd : d.get? (h ++ [name]) with
    | none => simp
    | some n => simp [hd]
  · rw [if_neg fun hboth => hl hboth.2.symm]
    split
    · exact Disk.get?_put_of_ne d _ hl
    · rfl

theorem cwd_settle (h : Loc) (d : Disk) (name : String) : (settle h d name).cwd = d.cwd := by
  unfold settle
  split <;> rfl

/-- A place holds a home once its name has come by, unless something was there. -/
theorem get?_foldl_settle (h : Loc) (names : List String) (d : Disk) (l : Loc) :
    (names.foldl (settle h) d).get? l =
      if d.get? l = none ∧ ∃ name ∈ names, l = h ++ [name] then some (.dir mode)
      else d.get? l := by
  induction names generalizing d with
  | nil => simp
  | cons name names ih =>
    rw [List.foldl_cons, ih, get?_settle]
    by_cases hl : d.get? l = none
    · by_cases hname : l = h ++ [name]
      · subst hname
        simp [hl]
      · simp [hl, hname]
    · simp [hl]

theorem grown_settle (h : Loc) (d : Disk) (name : String) : Disk.Grown d (settle h d name) := by
  refine ⟨cwd_settle h d name, fun l n hl => ?_, fun l hl m c => ?_⟩
  · rw [get?_settle, if_neg (by simp [hl]), hl]
  · rw [get?_settle]
    split
    · simp
    · simp [hl]

theorem grown_foldl_settle (h : Loc) (names : List String) (d : Disk) :
    Disk.Grown d (names.foldl (settle h) d) := by
  induction names generalizing d with
  | nil => exact .refl d
  | cons name names ih => exact (grown_settle h d name).trans (ih _)

/-- No name of a container is too odd for a tree of files. -/
theorem nul_of_isContainerName (hn : isContainerName name = true) : '\x00' ∉ name.toList := by
  obtain ⟨c, r, hlist, hc, hr⟩ := isContainerName_iff.mp hn
  rw [hlist, List.mem_cons]
  rintro (rfl | hmem)
  · exact absurd (isAlphanum_iff.mpr hc) (by decide)
  · exact absurd (isNameChar_iff.mpr (hr _ hmem)) (by decide)

namespace Ground

/-- A home that is made once its directory is there is settled. -/
theorem run_makeDirHere (hg : Ground env p d d₀)
    (hl : d₀.locate (p.child name) = .ok (d₀.place p ++ [name])) :
    (DiskM.makeDirHere (p.child name) mode false).run d₀ =
      (if d₀.get? (d₀.place p ++ [name]) = none then .ok () else .error .alreadyThere,
        settle (d₀.place p) d₀ name) := by
  have hplace := Disk.place_of_locate hl
  obtain ⟨m, -, hm⟩ := hg.exists_dir_made
  rw [DiskM.run_makeDirHere, settle]
  cases hget : d₀.get? (d₀.place p ++ [name]) with
  | none =>
    have hmake : d₀.makeDir (p.child name) mode =
        .ok (d₀.put (d₀.place p ++ [name]) (.dir mode)) := by
      refine Disk.create_eq_ok_iff.mpr ⟨hplace ▸ hl, hplace ▸ hget, ?_, by rw [← hplace]; rfl⟩
      refine Disk.checkDirOf_eq_ok_iff.mpr ⟨m, ?_⟩
      rw [← hplace, List.dropLast_concat]
      exact ⟨hm, hg.access m hm .write⟩
    rw [hmake]
    rfl
  | some n =>
    have hmake : d₀.makeDir (p.child name) mode = .error .alreadyThere := by
      simp [Disk.makeDir, Disk.create, hl, hget, bind, Except.bind]
    have hholds : d₀.holdsDir (p.child name) = .ok n.isDir := by
      rw [Disk.holdsDir, Disk.stat_of_locate hl hget]
    rw [hmake, hholds]
    rfl

/-- What is settled stays settled, and the directory is there. -/
theorem settle (hg : Ground env p d d₀) (hname : isContainerName name = true)
    (hsize : name.utf8ByteSize ≤ Disk.maxName) :
    Ground env p (settle (d₀.place p) d₀ name) (settle (d₀.place p) d₀ name) := by
  obtain ⟨-, hup⟩ := isPart_of_isContainerName hname
  obtain ⟨m, hl, hm⟩ := hg.exists_dir_made
  have hgrown := grown_settle (d₀.place p) d₀ name
  have hplace := hgrown.dirsIn.place p
  have hstat := Disk.stat_of_locate (hgrown.dirsIn.locate hl) (hgrown.kept _ _ hm)
  -- the tree comes from making one directory, which keeps it a tidy tree of files
  have hkeeps := DiskM.makeDirHere_keeps (P := fun d => d.WellFormed ∧ d.Tidy)
    (fun _ _ _ _ hd hm => ⟨hd.1.create hm, hd.2.makeDir hd.1 hm⟩) (p.child name) mode false
    ⟨hg.wellFormed_made, hg.tidy_made⟩
  rw [hg.run_makeDirHere (hg.locate_child hup hsize (nul_of_isContainerName hname))] at hkeeps
  refine ⟨⟨hg.dir, hkeeps.1, hkeeps.2, DiskM.makeDirs_of_dir hstat 0o777⟩, fun m' hm' => ?_,
    hg.room⟩
  · rw [hplace] at hm' ⊢
    rw [hgrown.kept _ _ hm] at hm'
    cases hm'
    exact hg.access m hm

end Ground

namespace Ground

/-- Where the way to the homes never goes up, making their directory puts nothing into it. -/
theorem get?_child (hg : Ground env p d d₀) (hup : ".." ∉ p.parts) (x : String) :
    d₀.get? (d.place p ++ [x]) = d.get? (d.place p ++ [x]) := by
  have hplace {parts : List String} (hpre : parts <+: p.parts) :
      d.place ⟨p.root, parts⟩ ≠ d.place p ++ [x] := by
    have hparts : ".." ∉ parts := fun hmem => hup (hpre.subset hmem)
    have habs : (⟨p.root, parts⟩ : Path).isAbsolute = p.isAbsolute := rfl
    rw [Disk.place_eq, Disk.place_eq, habs, Loc.foldl_follow hparts, Loc.foldl_follow hup]
    intro heq
    have hlength := congrArg List.length heq
    have hle := hpre.length_le
    simp only [List.length_append, List.length_singleton] at hlength
    omega
  by_cases hsame : d₀.get? (d.place p ++ [x]) = d.get? (d.place p ++ [x])
  · exact hsame
  · obtain ⟨heq, -⟩ | ⟨parts, hpre, -, heq, -⟩ := hg.madeFor.new _ hsame
    · exact absurd heq.symm (hplace (List.prefix_refl p.parts))
    · exact absurd heq.symm (hplace hpre)

/-- Where the way to the homes never goes up and does not arrive, there are no homes. -/
theorem get?_child_of_not_holds (hg : Ground env p d d₀) (hup : ".." ∉ p.parts)
    (hthere : d.holds p = .ok false) (x : String) : d.get? (d.place p ++ [x]) = none := by
  refine hg.wellFormed.get?_append ?_ [x]
  obtain ⟨m, hl, -⟩ := hg.exists_dir_made
  rcases hg.grown.locate hl with hok | hmissing
  · rw [hg.place] at hok
    cases hget : d.get? (d.place p) with
    | none => rfl
    | some n =>
      rw [Disk.holds, Disk.stat_of_locate hok hget] at hthere
      cases hthere
  · obtain ⟨hnul, htext, -⟩ := Disk.locate_eq_ok_iff.mp hl
    rw [Disk.locate, if_neg (by simp [hnul]), if_neg (by omega)] at hmissing
    rw [Disk.place_eq, Loc.foldl_follow hup]
    exact hg.wellFormed.get?_of_walk hmissing hup

end Ground

end BoxWarden.Homes
