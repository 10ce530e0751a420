import BoxWarden.Proofs.Command.Plan

/-!
What one container sees of the file of grants: its own grants, and whether the file takes more of
them. Calls for other containers leave this as it is, so two series of calls that agree on the ones
for a container lead to the same grants and to the same plan for it.
-/

namespace BoxWarden

namespace Store

open Disk (FileIs)

/-- A file as one container sees it: whether grants can be added to it and taken from it, and the
grants of the container. -/
structure Share where
  grows : Bool
  shrinks : Bool
  grants : List Record
deriving DecidableEq, Repr

/-- What a call of the container makes of what it sees. -/
def Share.after (x : Share) : Call → Share
  | .grant container kind value =>
    match grantOf container kind value with
    | .ok r => if x.grows then { x with grants := x.grants ++ [r] } else x
    | .error _ => x
  | .revoke container kind =>
    match Kind.parse kind with
    | .ok k =>
      if x.shrinks then { x with grants := x.grants.filter fun r => !Store.grants container k r }
      else x
    | .error _ => x
  | _ => x

/-- Whether a call grants to a container, or takes from it. -/
def Call.concerns (b : String) : Call → Bool
  | .grant container .. => container = b
  | .revoke container _ => container = b
  | _ => false

/-- What a container sees of a file that it can read, or that is missing and whose directory can be
made; of a file that it cannot read it sees nothing. -/
inductive Sees (b : String) (s : Store) (d : Disk) : Option Share → Prop
  | missing {d₀ : Disk} {grows shrinks : Bool} (hd : d.WellFormed)
      (hmake : (DiskM.makeDirs s.path.parent 0o777 true).run d = (.ok (), d₀)) (hway : Way s d₀)
      (hnone : d₀.get? (d₀.place s.path) = none)
      (hgrows : grows = true ↔ d₀.checkDirOf (d₀.place s.path) = .ok ())
      (hshrinks : shrinks = true ↔ DiskM.TakesTemp d₀ s.path) :
      Sees b s d (some ⟨grows, shrinks, []⟩)
  | present {m : Nat} {t : String} {grows shrinks : Bool} (hway : Way s d)
      (hfile : FileIs d (d.place s.path) (some (m, t)))
      (hread : Access.read.allowed (d.place s.path) m = true)
      (hgrows : grows = Access.write.allowed (d.place s.path) m)
      (hshrinks : shrinks = true ↔ DiskM.TakesTemp d s.path) :
      Sees b s d (some ⟨grows, shrinks, (grantsIn t).filter (·.container = b)⟩)
  | sealed {m : Nat} {t : String} (hway : Way s d)
      (hfile : FileIs d (d.place s.path) (some (m, t)))
      (hread : Access.read.allowed (d.place s.path) m = false) : Sees b s d none

/-- What a container sees after a call: only its own calls matter. -/
def seenAfter (b : String) (v : Option Share) (call : Call) : Option Share :=
  if call.concerns b then v.map (·.after call) else v

variable {b : String} {s : Store} {d d' : Disk} {w : World} {v : Option Share}

/-- Whether there is room for a temporary file does not depend on the file itself. -/
theorem Way.takesTemp_iff (h : Way s d) (hs : Disk.SameBut (d.place s.path) d d') (h' : Way s d') :
    DiskM.TakesTemp d' s.path ↔ DiskM.TakesTemp d s.path := by
  have hplace := h.place_of_sameBut hs
  refine ⟨fun ht => ?_, fun ht => ?_⟩
  · exact ht.of_sameBut h'.wellFormed h.wellFormed h.endsInName (hplace ▸ h'.leads)
      (hplace ▸ h'.noDir) hs.symm
  · exact ht.of_sameBut h.wellFormed h'.wellFormed h.endsInName h.leads h.noDir hs

/-- A file that is put where the way leads is reached the same way. -/
theorem Way.put {m : Nat} {t : String} (h : Way s d) (hs : Disk.SameBut (d.place s.path) d d')
    (hd' : d'.WellFormed) (hfile : FileIs d' (d.place s.path) (some (m, t))) : Way s d' := by
  refine h.of_sameBut hs hd' fun m' hm' => ?_
  rw [Disk.fileIs_some_iff.mp hfile] at hm'
  cases hm'

/-- A text that is put in the place of the file, or behind it, is seen. -/
theorem Sees.put {grows shrinks : Bool} {m : Nat} {t : String} (hway : Way s d)
    (hs : Disk.SameBut (d.place s.path) d d') (hd' : d'.WellFormed)
    (hfile : FileIs d' (d.place s.path) (some (m, t)))
    (hread : Access.read.allowed (d.place s.path) m = true)
    (hgrows : grows = Access.write.allowed (d.place s.path) m)
    (hshrinks : shrinks = true ↔ DiskM.TakesTemp d s.path) :
    Sees b s d' (some ⟨grows, shrinks, (grantsIn t).filter (·.container = b)⟩) := by
  have hplace := hway.place_of_sameBut hs
  have hway' := hway.put hs hd' hfile
  rw [← hplace] at hfile hread hgrows
  exact .present hway' hfile hread hgrows (hshrinks.trans (hway.takesTemp_iff hs hway').symm)

theorem seenAfter_of_unchanged {call : Call} (h : ∀ x, v = some x → x.after call = x) :
    seenAfter b v call = v := by
  rw [seenAfter]
  split
  · cases v with
    | none => rfl
    | some x => rw [Option.map_some, h x rfl]
  · rfl

/-- The text that a container sees. -/
theorem Sees.text (h : Sees b s d v) :
    v = none ∧ d.textAt s.path = .error .denied ∨
      ∃ x t, v = some x ∧ d.textAt s.path = .ok t ∧
        x.grants = (grantsIn t).filter (·.container = b) := by
  cases h with
  | missing hd hmake hway hnone =>
    exact .inr ⟨_, "", rfl, hway.textAt_of_missing hmake hnone, rfl⟩
  | present hway hfile hread =>
    exact .inr ⟨_, _, rfl, Disk.textAt_of_file hway.leads (Disk.fileIs_some_iff.mp hfile) hread, rfl⟩
  | sealed hway hfile hread =>
    refine .inl ⟨rfl, ?_⟩
    have hg := Disk.fileIs_some_iff.mp hfile
    have hholds : d.holds s.path = .ok true := by
      rw [Disk.holds, Disk.stat_of_locate hway.leads hg]
    have hdenied : d.read s.path = .error .denied := by
      rw [Disk.read_of_file hway.leads hg, hread]
      rfl
    rw [Disk.textAt, hholds]
    change d.readText s.path = _
    rw [Disk.readText, hdenied]
    rfl

/-- A line goes into a file that is seen to grow, and into no other. -/
theorem Sees.appendLine {x : Share} (h : Sees b s d (some x)) {r : Record}
    (hname : isContainerName r.container = true) (hvalue : fitsLine r.value = true) :
    ∃ d₀, (DiskM.makeDirs s.path.parent 0o777 true).run d = (.ok (), d₀) ∧
      ((x.grows = true ∧ ∃ d', (DiskM.appendLine s.path r.line).run d₀ = (.ok (), d') ∧
          Sees b s d' (some { x with grants := x.grants ++ [r].filter (·.container = b) })) ∨
        (x.grows = false ∧ ∃ e, (DiskM.appendLine s.path r.line).run d₀ = (.error e, d₀) ∧
          Sees b s d₀ (some x))) := by
  have hadded (t : String) : (grantsIn (added t r.line)).filter (·.container = b) =
      (grantsIn t).filter (·.container = b) ++ [r].filter (·.container = b) := by
    rw [grantsIn_added t hname hvalue, List.filter_append]
  cases h with
  | @missing d₀ grows shrinks hd hmake hway hnone hgrows hshrinks =>
    have hrun := DiskM.run_appendLine_of_missing hway.leads hnone r.line
    refine ⟨d₀, hmake, ?_⟩
    cases hc : d₀.checkDirOf (d₀.place s.path) with
    | error e =>
      rw [hc] at hrun hgrows
      have hfull : grows = false := by simpa using hgrows
      exact .inr ⟨hfull, e, hrun,
        .missing hway.wellFormed hway.makeDirs hway hnone (by simp [hc, hfull]) hshrinks⟩
    | ok u =>
      obtain rfl : grows = true := hgrows.mpr hc
      rw [hc] at hrun
      obtain ⟨hd', hs, hfile⟩ := appendLine_ok hway.wellFormed hrun
      have hput := Sees.put (b := b) hway hs hd' (hfile none (.of_none hnone))
        (allowed_newFile hway.place_ne_top .read (by simp) (.inl rfl))
        (allowed_newFile hway.place_ne_top .write (by simp) (.inl rfl)).symm hshrinks
      rw [hadded] at hput
      exact .inl ⟨rfl, _, hrun, hput⟩
  | @present m t grows shrinks hway hfile hread hgrows hshrinks =>
    have hrun := DiskM.run_appendLine_of_file hway.leads (Disk.fileIs_some_iff.mp hfile) r.line
    refine ⟨d, hway.makeDirs, ?_⟩
    cases hw : Access.write.allowed (d.place s.path) m with
    | false =>
      rw [if_neg (by simp [hw])] at hrun
      exact .inr ⟨hgrows.trans hw, _, hrun, .present hway hfile hread hgrows hshrinks⟩
    | true =>
      rw [if_pos ⟨.inr hread, hw⟩] at hrun
      obtain ⟨hd', hs, hnew⟩ := appendLine_ok hway.wellFormed hrun
      have hput := Sees.put (b := b) hway hs hd' (hnew _ hfile) hread hgrows hshrinks
      rw [hadded] at hput
      exact .inl ⟨hgrows.trans hw, _, hrun, hput⟩

/-- A text is replaced in a file that is seen to shrink, and in no other. -/
theorem Sees.replace {x : Share} {t : String} (h : Sees b s d (some x))
    (ht : d.textAt s.path = .ok t) (hne : t ≠ "") (t' : String) :
    (x.shrinks = true ∧ ∃ d', (DiskM.replace s.path t').run d = (.ok (), d') ∧
        Sees b s d' (some { x with grants := (grantsIn t').filter (·.container = b) })) ∨
      (x.shrinks = false ∧ ∃ e d', (DiskM.replace s.path t').run d = (.error e, d') ∧
        Sees b s d' (some x)) := by
  cases h with
  | missing hd hmake hway hnone =>
    rw [hway.textAt_of_missing hmake hnone] at ht
    exact absurd (Except.ok.inj ht).symm hne
  | @present m t₀ grows shrinks hway hfile hread hgrows hshrinks =>
    have hg := Disk.fileIs_some_iff.mp hfile
    by_cases htemp : DiskM.TakesTemp d s.path
    · obtain ⟨d', hrun⟩ := DiskM.replace_of_takesTemp hway.wellFormed hway.leads hg htemp t'
      obtain ⟨hd', hs, hnew⟩ := replace_ok hway.wellFormed hway.leads hg hrun
      exact .inl ⟨hshrinks.mpr htemp, d', hrun, Sees.put hway hs hd' hnew
        ((allowed_and _ _ _).trans hread) (hgrows.trans (allowed_and _ _ _).symm) hshrinks⟩
    · have hfixed : shrinks = false := by simpa [htemp] using hshrinks
      obtain ⟨-, e, hrun⟩ | ⟨hcan, -⟩ := DiskM.replace_cases hway.wellFormed s.path t'
      · exact .inr ⟨hfixed, e, d, hrun, .present hway hfile hread hgrows hshrinks⟩
      · exact absurd hcan.temp htemp

theorem seenAfter_grant {container kind value : String} {r : Record} {x : Share}
    (hr : grantOf container kind value = .ok r) (hgrows : x.grows = true) :
    seenAfter b (some x) (.grant container kind value) =
      some { x with grants := x.grants ++ [r].filter (·.container = b) } := by
  have hname : r.container = container := (grantOf_eq_ok_iff.mp hr).1
  by_cases hc : container = b
  · subst hc
    simp [seenAfter, Call.concerns, Share.after, hr, hgrows, hname]
  · simp [seenAfter, Call.concerns, hname, hc]

theorem seenAfter_revoke {container kind : String} {k : Kind} {x : Share} {rs : List Record}
    (hk : Kind.parse kind = .ok k) (hshrinks : x.shrinks = true)
    (hx : x.grants = rs.filter (·.container = b)) :
    seenAfter b (some x) (.revoke container kind) = some { x with
      grants := (rs.filter fun r => !grants container k r).filter (·.container = b) } := by
  by_cases hc : container = b
  · simp [seenAfter, Call.concerns, Share.after, hk, hshrinks, hx, hc, List.filter_filter,
      Bool.and_comm]
  · have hfilter : (rs.filter fun r => !grants container k r).filter (·.container = b) =
        x.grants := by
      rw [hx, List.filter_filter]
      refine List.filter_congr fun r _ => ?_
      by_cases hr : r.container = b
      · simp [grants, hr, Ne.symm hc]
      · simp [hr]
    simp [seenAfter, Call.concerns, hc, hfilter]

theorem sees_grant (h : Sees b s w.disk v) (container kind value : String) :
    Sees b s (s.perform w (.grant container kind value)).2.disk
      (seenAfter b v (.grant container kind value)) := by
  rw [perform, run_grant]
  cases hr : grantOf container kind value with
  | error e =>
    rw [seenAfter_of_unchanged fun x _ => by simp [Share.after, hr]]
    exact h
  | ok r =>
    obtain ⟨-, -, -, hname, hvalue⟩ := grantOf_eq_ok_iff.mp hr
    cases v with
    | some x =>
      obtain ⟨d₀, hmake, ⟨hgrows, d', hrun, hseen⟩ | ⟨hfull, e, hrun, hseen⟩⟩ :=
        h.appendLine hname hvalue
      · rw [seenAfter_grant hr hgrows]
        simp only [hmake, hrun]
        simpa using hseen
      · rw [seenAfter_of_unchanged fun y hy => by
          obtain rfl := Option.some.inj hy
          simp [Share.after, hr, hfull]]
        simp only [hmake, hrun]
        exact hseen
    | none =>
      cases h with
      | @sealed m t hway hfile hread =>
        rw [seenAfter_of_unchanged (by simp)]
        simp only [hway.makeDirs]
        obtain ⟨e, hrun⟩ | ⟨d', hrun, hd', hs, hnew⟩ :=
          appendLine_step (p := s.path) hway.wellFormed r.line
        · simp only [hrun]
          exact .sealed hway hfile hread
        · have hfile' := hnew _ hfile
          have hway' := hway.put hs hd' hfile'
          rw [← hway.place_of_sameBut hs] at hfile' hread
          simp only [hrun]
          simpa using Sees.sealed (b := b) hway' hfile' hread

theorem sees_revoke (h : Sees b s w.disk v) (container kind : String) :
    Sees b s (s.perform w (.revoke container kind)).2.disk
      (seenAfter b v (.revoke container kind)) := by
  rw [perform, run_revoke]
  cases hk : Kind.parse kind with
  | error e =>
    rw [seenAfter_of_unchanged fun x _ => by simp [Share.after, hk]]
    exact h
  | ok k =>
    simp only
    obtain ⟨rfl, ht⟩ | ⟨x, t, rfl, ht, hx⟩ := h.text
    · rw [seenAfter_of_unchanged (by simp), ht]
      exact h
    · rw [ht]
      by_cases hc : countIn container k t = 0
      · have hnone : x.grants.filter (fun r => !grants container k r) = x.grants := by
          rw [countIn_eq, List.length_eq_zero_iff, List.filter_eq_nil_iff] at hc
          rw [List.filter_eq_self, hx]
          intro r hr
          simpa using hc r (List.mem_filter.mp hr).1
        rw [seenAfter_of_unchanged fun y hy => by
          obtain rfl := Option.some.inj hy
          simp [Share.after, hk, hnone]]
        simp only [if_pos hc]
        exact h
      · have hne : t ≠ "" := by
          rintro rfl
          exact hc rfl
        simp only [if_neg hc]
        obtain ⟨hshrinks, d', hrun, hseen⟩ | ⟨hfixed, e, d', hrun, hseen⟩ :=
          h.replace ht hne (without container k t)
        · rw [seenAfter_revoke hk hshrinks hx, ← grantsIn_without]
          simp only [hrun]
          simpa using hseen
        · rw [seenAfter_of_unchanged fun y hy => by
            obtain rfl := Option.some.inj hy
            simp [Share.after, hk, hfixed]]
          simp only [hrun]
          exact hseen

theorem sees_ensure (h : Sees b s w.disk v) : Sees b s (s.perform w .ensure).2.disk v := by
  rw [perform]
  cases h with
  | @missing d₀ grows shrinks hd hmake hway hnone hgrows hshrinks =>
    rw [run_ensureExists]
    simp only [hmake]
    obtain ⟨e, hrun⟩ | ⟨d', hrun, hd', hs, -, hcheck, hfile⟩ :=
      writeNew_step (p := s.path) hway.wellFormed heading 0o644
    · have hseen : Sees b s d₀ (some ⟨grows, shrinks, []⟩) :=
        .missing hway.wellFormed hway.makeDirs hway hnone hgrows hshrinks
      simp only [hrun]
      cases e <;> exact hseen
    · obtain rfl : grows = true := hgrows.mpr hcheck
      have hput := Sees.put (b := b) hway hs hd' hfile
        (allowed_newFile hway.place_ne_top .read (by simp) (.inr rfl))
        (allowed_newFile hway.place_ne_top .write (by simp) (.inr rfl)).symm hshrinks
      rw [grantsIn_heading, List.filter_nil] at hput
      simp only [hrun]
      simpa using hput
  | present hway hfile hread hgrows hshrinks =>
    rw [hway.run_ensureExists (Disk.fileIs_some_iff.mp hfile)]
    exact .present hway hfile hread hgrows hshrinks
  | sealed hway hfile hread =>
    rw [hway.run_ensureExists (Disk.fileIs_some_iff.mp hfile)]
    exact .sealed hway hfile hread

/-- A call leaves to a container what it saw, unless the call is its own. -/
theorem sees_perform (h : Sees b s w.disk v) (call : Call) :
    Sees b s (s.perform w call).2.disk (seenAfter b v call) := by
  have hreads {answer : String → Answer} (hr : call.reading? = some answer) :
      Sees b s (s.perform w call).2.disk v := (s.perform_of_reading w hr).2 ▸ h
  cases call with
  | ensure => exact sees_ensure h
  | grant container kind value => exact sees_grant h container kind value
  | revoke container kind => exact sees_revoke h container kind
  | list container => exact hreads rfl
  | records => exact hreads rfl
  | containers => exact hreads rfl

/-- Over a series of calls, what a container sees follows from its own calls alone. -/
theorem sees_performAll (h : Sees b s w.disk v) (calls : List Call) :
    Sees b s (s.performAll w calls).2.disk
      ((calls.filter (Call.concerns b)).foldl (seenAfter b) v) := by
  induction calls generalizing w v with
  | nil => exact h
  | cons call calls ih =>
    have hstep := ih (sees_perform h call)
    rw [performAll_cons]
    by_cases hc : call.concerns b = true
    · rwa [List.filter_cons_of_pos hc, List.foldl_cons]
    · rw [seenAfter, if_neg hc] at hstep
      rwa [List.filter_cons_of_neg hc]

/-- What a container sees are its grants. -/
theorem Sees.list (h : Sees b s w.disk v) :
    ((s.list b).run w).1 = v.elim (.error (.disk .denied)) fun x => .ok x.grants := by
  obtain ⟨w', -, hrun⟩ := run_list s w b
  rw [hrun]
  obtain ⟨rfl, ht⟩ | ⟨x, t, rfl, ht, hx⟩ := h.text
  · rw [ht]
    rfl
  · rw [ht, Option.elim_some, hx]
    rfl

/-- A container that can read the file goes on to read it. -/
theorem isSome_foldl_seenAfter (calls : List Call) :
    (calls.foldl (seenAfter b) v).isSome = v.isSome := by
  induction calls generalizing v with
  | nil => rfl
  | cons call calls ih =>
    rw [List.foldl_cons, ih, seenAfter]
    split
    · exact Option.isSome_map
    · rfl

/-- The file of a store is a text, whatever its permissions are, or it is missing and its directory
can be made. -/
inductive Reached (s : Store) (d : Disk) : Prop
  | missing {d₀ : Disk} (hd : d.WellFormed)
      (hmake : (DiskM.makeDirs s.path.parent 0o777 true).run d = (.ok (), d₀)) (hway : Way s d₀)
      (hnone : d₀.get? (d₀.place s.path) = none)
  | present {m : Nat} {t : String} (hway : Way s d)
      (hfile : FileIs d (d.place s.path) (some (m, t)))

theorem Reached.exists_sees (h : Reached s d) (b : String) : ∃ v, Sees b s d v := by
  have hbool (p : Prop) : ∃ x : Bool, x = true ↔ p := by
    by_cases hp : p
    · exact ⟨true, by simp [hp]⟩
    · exact ⟨false, by simp [hp]⟩
  cases h with
  | @missing d₀ hd hmake hway hnone =>
    obtain ⟨grows, hgrows⟩ := hbool (d₀.checkDirOf (d₀.place s.path) = .ok ())
    obtain ⟨shrinks, hshrinks⟩ := hbool (DiskM.TakesTemp d₀ s.path)
    exact ⟨_, .missing hd hmake hway hnone hgrows hshrinks⟩
  | @present m t hway hfile =>
    obtain ⟨shrinks, hshrinks⟩ := hbool (DiskM.TakesTemp d s.path)
    cases hread : Access.read.allowed (d.place s.path) m with
    | false => exact ⟨_, .sealed hway hfile hread⟩
    | true => exact ⟨_, .present hway hfile hread rfl hshrinks⟩

end Store

namespace Plan

open Store (Call Reached)

/-- Two series of calls that agree on the calls for one container leave it the same grants and the
same plan, whatever else is in them. In particular calls for other containers alone leave both as
they were. A file that can be read at first can be read afterwards, and the plan is made. -/
theorem bystander_unaffected {s : Store} {w : World} (h : Reached s w.disk) {b : String}
    {calls calls' : List Call}
    (hcalls : calls.filter (Call.concerns b) = calls'.filter (Call.concerns b)) :
    ((s.list b).run (s.performAll w calls).2).1 = ((s.list b).run (s.performAll w calls').2).1 ∧
    (∀ env image host, ((make env s b image host).run (s.performAll w calls).2).1 =
      ((make env s b image host).run (s.performAll w calls').2).1) ∧
    ∀ t, w.disk.textAt s.path = .ok t →
      ∃ records, ((s.list b).run (s.performAll w calls).2).1 = .ok records ∧
        ∀ env image host dir, isContainerName b = true → Homes.dir env = .ok dir →
          ∃ plan, ((make env s b image host).run (s.performAll w calls).2).1 = .ok plan ∧
            plan.compiled = compile (host.getD env.host) records := by
  obtain ⟨v, hv⟩ := h.exists_sees b
  have hlist := (Store.sees_performAll hv calls).list
  have hlist' := (Store.sees_performAll hv calls').list
  have hsame : ((s.list b).run (s.performAll w calls).2).1 =
      ((s.list b).run (s.performAll w calls').2).1 := by
    rw [hlist, hlist', hcalls]
  have hmake (env : Environment) (image : String) (host : Option Host) (w : World) :
      ((make env s b image host).run w).1 = ((s.list b).run w).1.bind fun records =>
        (Homes.home env b).map fun home => ofRecords b image home (host.getD env.host) records := by
    obtain ⟨w', -, hrun⟩ := run_make_of_list env s b image host w
    rw [hrun]
  refine ⟨hsame, fun env image host => ?_, fun t ht => ?_⟩
  · rw [hmake, hmake, hsame]
  · obtain ⟨-, hdenied⟩ | ⟨x, -, rfl, -, -⟩ := hv.text
    · rw [ht] at hdenied
      cases hdenied
    · have hsome := Store.isSome_foldl_seenAfter (b := b) (v := some x)
        (calls.filter (Call.concerns b))
      obtain ⟨y, hy⟩ := Option.isSome_iff_exists.mp hsome
      rw [hy, Option.elim_some] at hlist
      refine ⟨y.grants, hlist, fun env image host dir hb hdir => ?_⟩
      rw [hmake, hlist, Homes.home_of_isContainerName hb, hdir]
      exact ⟨_, rfl, rfl⟩

theorem bystander_unaffected_desk :
    let calls : List Call := [.grant "web" "gpu" "1\ndev:privileged:1", .revoke "web" "gpu",
      .grant "web" "unshare_all" "false", .ensure, .revoke "web" "unshare_all"]
    Reached Store.deskStore Store.desk ∧
      calls.filter (Call.concerns "dev") = ([] : List Call).filter (Call.concerns "dev") ∧
      ((Store.deskStore.list "dev").run
        (Store.deskStore.performAll { disk := Store.desk } calls).2).1 =
          .ok [⟨"dev", .gpu, "1"⟩] := by
  intro calls
  have hreached : Reached Store.deskStore Store.desk := by
    cases Store.holding_desk with
    | present hroom hfile => exact .present hroom.toWay hfile
  have hcalls : calls.filter (Call.concerns "dev") = ([] : List Call).filter (Call.concerns "dev") :=
    rfl
  refine ⟨hreached, hcalls, ?_⟩
  obtain ⟨w', -, hlist⟩ := Store.run_list Store.deskStore { disk := Store.desk } "dev"
  have hbefore := (bystander_unaffected (w := { disk := Store.desk }) hreached hcalls).1
  rw [hbefore]
  change ((Store.deskStore.list "dev").run { disk := Store.desk }).1 = _
  rw [hlist, Store.holding_desk.textAt]
  rfl

end Plan

end BoxWarden
