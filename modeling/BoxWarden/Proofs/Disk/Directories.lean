import BoxWarden.Proofs.Disk.Change

/-!
Making a directory with the parents it lacks. Whatever a single new directory keeps, the whole
operation keeps, whether it succeeds or not; and where the directory is there already it does
nothing. What is new afterwards is the directory itself or on the way to it.
-/

namespace BoxWarden

namespace Disk

/-- The trees differ by a directory and by directories on the way to it, at most. -/
structure MadeFor (p : Path) (mode : Nat) (d d' : Disk) : Prop where
  grown : Grown d d'
  new : ∀ l, d'.get? l ≠ d.get? l →
    l = d.place p ∧ d'.get? l = some (.dir (newMode mode)) ∨
      ∃ parts, parts <+: p.parts ∧ parts ≠ p.parts ∧ l = d.place ⟨p.root, parts⟩ ∧
        d'.get? l = some (.dir dirMode)

variable {p : Path} {mode : Nat} {d d' : Disk}

theorem MadeFor.refl (p : Path) (mode : Nat) (d : Disk) : MadeFor p mode d d :=
  ⟨Grown.refl d, fun _ h => absurd rfl h⟩

theorem madeFor_of_makeDir (h : d.makeDir p mode = .ok d') : MadeFor p mode d d' := by
  refine ⟨grown_of_makeDir h, fun l hl => ?_⟩
  obtain ⟨-, -, -, rfl⟩ := create_eq_ok_iff.mp h
  by_cases hne : d.place p = l
  · subst hne
    exact .inl ⟨rfl, get?_put_self d _ _⟩
  · exact absurd (get?_put_of_ne d _ hne) hl

/-- The directory that holds another is made before it, with the usual permissions. -/
theorem MadeFor.child {q : Path} {d₁ : Disk} (hq : MadeFor q 0o777 d d₁) (hp : MadeFor p mode d₁ d')
    (hroot : q.root = p.root) (hparts : q.parts <+: p.parts) (hne : q.parts ≠ p.parts) :
    MadeFor p mode d d' := by
  have hplace (p : Path) : d₁.place p = d.place p := hq.grown.dirsIn.place p
  refine ⟨hq.grown.trans hp.grown, fun l hl => ?_⟩
  by_cases hlast : d'.get? l = d₁.get? l
  · rw [hlast] at hl ⊢
    obtain ⟨rfl, hdir⟩ | ⟨parts, hprefix, hshort, rfl, hdir⟩ := hq.new l hl
    · exact .inr ⟨q.parts, hparts, hne, by rw [← hroot], hdir⟩
    · refine .inr ⟨parts, hprefix.trans hparts, ?_, by rw [← hroot], hdir⟩
      rintro rfl
      exact hne (hparts.eq_of_length_le hprefix.length_le)
  · obtain ⟨rfl, hdir⟩ | ⟨parts, hprefix, hshort, rfl, hdir⟩ := hp.new l hlast
    · exact .inl ⟨hplace p, hdir⟩
    · exact .inr ⟨parts, hprefix, hshort, hplace _, hdir⟩

/-- A path that can be made, or whose parent is missing, names nothing. -/
theorem holds_of_makeDir (h : (∃ d', d.makeDir p mode = .ok d') ∨
    d.makeDir p mode = .error .notFound) : d.holds p = .ok false := by
  have hstat : d.stat p = .error .notFound := by
    unfold makeDir create at h
    unfold stat
    cases hl : d.locate p with
    | error e =>
      rw [hl] at h
      obtain ⟨d', h⟩ | h := h
      · cases h
      · obtain rfl := Except.error.inj h
        rfl
    | ok l =>
      cases hn : d.get? l with
      | none => simp [hn, bind, Except.bind]
      | some n => simp [hl, hn, bind, Except.bind] at h
  rw [holds, hstat]

end Disk

namespace DiskM

theorem run_makeDirHere (p : Path) (mode : Nat) (existing : Bool) (d : Disk) :
    (makeDirHere p mode existing).run d = match d.makeDir p mode with
      | .ok d' => (.ok (), d')
      | .error e => match d.holdsDir p with
        | .ok there => (if existing && there then .ok () else .error e, d)
        | .error e' => (.error e', d) := by
  rw [makeDirHere, run_bind_ok (run_get d)]
  cases hm : d.makeDir p mode with
  | ok d' => rfl
  | error e =>
    simp only [run_bind, run_ask]
    cases hh : d.holdsDir p with
    | error e' => rfl
    | ok there => cases existing <;> cases there <;> rfl

/-- What holds of a tree holds after a new directory at its end, if each new directory keeps it. -/
theorem makeDirHere_keeps {P : Disk → Prop}
    (hP : ∀ d p mode d', P d → d.makeDir p mode = .ok d' → P d')
    (p : Path) (mode : Nat) (existing : Bool) {d : Disk} (hd : P d) :
    P ((makeDirHere p mode existing).run d).2 := by
  rw [run_makeDirHere]
  cases hm : d.makeDir p mode with
  | ok d' => exact hP d p mode d' hd hm
  | error e => cases d.holdsDir p <;> exact hd

theorem run_makeDirsUp_cons (root : Root) (mode : Nat) (existing : Bool) (part : String)
    (up : List String) (d : Disk) :
    (makeDirsUp root mode existing (part :: up)).run d =
      match d.makeDir ⟨root, (part :: up).reverse⟩ mode with
      | .error .notFound =>
        (do makeDirsUp root 0o777 true up
            makeDirHere ⟨root, (part :: up).reverse⟩ mode existing : DiskM Unit).run d
      | _ => (makeDirHere ⟨root, (part :: up).reverse⟩ mode existing).run d := by
  rw [run_makeDirHere, makeDirsUp, run_bind_ok (run_get d)]
  cases hm : d.makeDir ⟨root, (part :: up).reverse⟩ mode with
  | ok d' => rfl
  | error e =>
    cases e with
    | notFound => rfl
    | _ =>
      simp only [run_bind, run_ask]
      cases d.holdsDir ⟨root, (part :: up).reverse⟩ with
      | error e' => rfl
      | ok there => cases existing <;> cases there <;> rfl

/-- The induction is on the path from its end: a missing parent comes first. -/
theorem makeDirs_keeps {P : Disk → Prop}
    (hP : ∀ d p mode d', P d → d.makeDir p mode = .ok d' → P d')
    (p : Path) (mode : Nat) (existing : Bool) {d : Disk} (hd : P d) :
    P ((makeDirs p mode existing).run d).2 := by
  have key (parts : List String) (mode : Nat) (existing : Bool) (d : Disk) (hd : P d) :
      P ((makeDirsUp p.root mode existing parts).run d).2 := by
    induction parts generalizing mode existing d with
    | nil => exact makeDirHere_keeps hP _ mode existing hd
    | cons part up ih =>
      rw [run_makeDirsUp_cons]
      split
      · have hup := ih 0o777 true d hd
        rw [run_bind]
        generalize (makeDirsUp p.root 0o777 true up).run d = x at hup
        obtain ⟨r, d'⟩ := x
        cases r with
        | error e => exact hup
        | ok u => exact makeDirHere_keeps hP _ mode existing hup
      · exact makeDirHere_keeps hP _ mode existing hd
  exact key p.parts.reverse mode existing d hd

/-- Making directories only adds directories. -/
theorem grown_makeDirs (p : Path) (mode : Nat) (existing : Bool) (d : Disk) :
    Disk.Grown d ((makeDirs p mode existing).run d).2 :=
  makeDirs_keeps (fun _ _ _ _ hd hm => hd.trans (Disk.grown_of_makeDir hm)) p mode existing
    (Disk.Grown.refl d)

theorem wellFormed_makeDirs (p : Path) (mode : Nat) (existing : Bool) {d : Disk}
    (hd : d.WellFormed) : ((makeDirs p mode existing).run d).2.WellFormed :=
  makeDirs_keeps (fun _ _ _ _ hd hm => hd.create hm) p mode existing hd

/-- A directory that is there is left alone. -/
theorem makeDirHere_of_dir {d : Disk} {p : Path} {m : Nat} (h : d.stat p = .ok (.dir m))
    (mode : Nat) : d.makeDir p mode = .error .alreadyThere ∧
      (makeDirHere p mode true).run d = (.ok (), d) := by
  have hmake : d.makeDir p mode = .error .alreadyThere := by
    obtain ⟨hl, hg⟩ := Disk.locate_of_stat h
    simp [Disk.makeDir, Disk.create, hl, hg, bind, Except.bind]
  have hthere : d.holdsDir p = .ok true := by
    rw [Disk.holdsDir, h]
    rfl
  refine ⟨hmake, ?_⟩
  rw [run_makeDirHere, hmake, hthere]
  rfl

theorem makeDirs_of_dir {d : Disk} {p : Path} {m : Nat} (h : d.stat p = .ok (.dir m)) (mode : Nat) :
    (makeDirs p mode true).run d = (.ok (), d) := by
  obtain ⟨hmake, hhere⟩ := makeDirHere_of_dir h mode
  unfold makeDirs
  cases hr : p.parts.reverse with
  | nil =>
    have hp : p = ⟨p.root, []⟩ := by
      rw [List.reverse_eq_nil_iff] at hr
      rw [← hr]
    rw [hp] at hhere
    exact hhere
  | cons part up =>
    have hp : p = ⟨p.root, (part :: up).reverse⟩ := by rw [← hr, List.reverse_reverse]
    rw [run_makeDirsUp_cons, ← hp, hmake]
    exact hhere

theorem madeFor_makeDirHere (p : Path) (mode : Nat) (existing : Bool) (d : Disk) :
    Disk.MadeFor p mode d ((makeDirHere p mode existing).run d).2 := by
  rw [run_makeDirHere]
  cases hm : d.makeDir p mode with
  | ok d' => exact Disk.madeFor_of_makeDir hm
  | error e => cases d.holdsDir p <;> exact .refl p mode d

/-- Nothing is made but the directory and the parents it lacks, even if that goes wrong half way.
The induction is on the path from its end. -/
theorem madeFor_makeDirs (p : Path) (mode : Nat) (existing : Bool) (d : Disk) :
    Disk.MadeFor p mode d ((makeDirs p mode existing).run d).2 := by
  have key (up : List String) (mode : Nat) (existing : Bool) :
      Disk.MadeFor ⟨p.root, up.reverse⟩ mode d ((makeDirsUp p.root mode existing up).run d).2 := by
    induction up generalizing mode existing with
    | nil => exact madeFor_makeDirHere _ mode existing d
    | cons part up ih =>
      rw [run_makeDirsUp_cons]
      split
      · have hup := ih 0o777 true
        have hprefix : up.reverse <+: (part :: up).reverse := by simp
        have hshort : up.reverse ≠ (part :: up).reverse := by
          intro h
          simpa using congrArg List.length h
        rw [run_bind]
        generalize (makeDirsUp p.root 0o777 true up).run d = x at hup
        obtain ⟨e | u, d₁⟩ := x
        · exact hup.child (.refl _ mode d₁) rfl hprefix hshort
        · exact hup.child (madeFor_makeDirHere _ mode existing d₁) rfl hprefix hshort
      · exact madeFor_makeDirHere _ mode existing d
  have hp := key p.parts.reverse mode existing
  rwa [List.reverse_reverse] at hp

/-- A new directory that has to be new is made in the end, and was not there before. -/
theorem makeDir_of_makeDirs {p : Path} {mode : Nat} {d d' : Disk}
    (h : (makeDirs p mode false).run d = (.ok (), d')) :
    d.holds p = .ok false ∧ ∃ d₁ : Disk, d₁.makeDir p mode = .ok d' := by
  have hhere {d₁ : Disk} (h : (makeDirHere p mode false).run d₁ = (.ok (), d')) :
      d₁.makeDir p mode = .ok d' := by
    rw [run_makeDirHere] at h
    cases hm : d₁.makeDir p mode with
    | ok d₂ =>
      rw [hm] at h
      rw [(Prod.mk.inj h).2]
    | error e =>
      rw [hm] at h
      cases hh : d₁.holdsDir p <;> rw [hh] at h <;> cases h
  rw [makeDirs] at h
  cases hup : p.parts.reverse with
  | nil =>
    have hp : p = ⟨p.root, []⟩ := by rw [← List.reverse_eq_nil_iff.mp hup]
    rw [hup, makeDirsUp, ← hp] at h
    exact ⟨Disk.holds_of_makeDir (.inl ⟨d', hhere h⟩), d, hhere h⟩
  | cons part up =>
    have hp : p = ⟨p.root, (part :: up).reverse⟩ := by rw [← hup, List.reverse_reverse]
    rw [hup, run_makeDirsUp_cons, ← hp] at h
    split at h
    · next hmissing =>
      obtain ⟨u, d₁, -, hlast⟩ := exists_of_run_bind_ok h
      exact ⟨Disk.holds_of_makeDir (.inr hmissing), d₁, hhere hlast⟩
    · exact ⟨Disk.holds_of_makeDir (.inl ⟨d', hhere h⟩), d, hhere h⟩

/-- A new directory is there. -/
theorem stat_of_makeDirs {p : Path} {mode : Nat} {d d' : Disk}
    (h : (makeDirs p mode false).run d = (.ok (), d')) :
    d'.stat p = .ok (.dir (Disk.newMode mode)) := by
  obtain ⟨-, d₁, hmake⟩ := makeDir_of_makeDirs h
  have hdirs := (Disk.grown_of_makeDir hmake).dirsIn
  obtain ⟨hl, -, -, rfl⟩ := Disk.create_eq_ok_iff.mp hmake
  exact Disk.stat_of_locate (hdirs.locate hl) (Disk.get?_put_self d₁ _ _)

end DiskM

end BoxWarden
