import BoxWarden.Homes
import BoxWarden.Proofs.Disk.Directories
import BoxWarden.Proofs.Store.Call

/-!
The home of a container where it is needed: it is there, or it is made with the directories on the
way to it, and then it is there. Nothing else changes.
-/

namespace BoxWarden

open Session

namespace Homes

variable {env : Environment} {name : String} {p : Path} {w : World}

/-- A home is there, or it can be made. -/
def Obtainable (p : Path) (d : Disk) : Prop :=
  d.holds p = .ok true ∨ ∃ d', (DiskM.makeDirs p mode false).run d = (.ok (), d')

theorem run_ensure (hhome : home env name = .ok p) (w : World) :
    (ensure env name).run w = match w.disk.holds p with
      | .error e => (.error (.disk e), w)
      | .ok true => (.ok p, w)
      | .ok false =>
        match (DiskM.makeDirs p mode false).run w.disk with
        | (.error e, d) => (.error (.disk e), { w with disk := d })
        | (.ok (), d) => (.ok p, World.noted { w with disk := d }
            ⟨.info, source, "Created isolated home " ++ p.text⟩) := by
  rw [ensure, hhome, run_bind, run_require]
  simp only [run_bind, run_ask]
  cases w.disk.holds p with
  | error e => rfl
  | ok there =>
    cases there with
    | true => rfl
    | false =>
      have habsent : (Except.ok false : Except DiskError Bool).mapError Fault.disk = .ok false := rfl
      simp only [habsent, Bool.false_eq_true, if_false, run_bind, Store.run_onDisk_eq]
      generalize (DiskM.makeDirs p mode false).run w.disk = x
      obtain ⟨e | u, d⟩ := x
      · rfl
      · simp only [run_log, run_pure]

theorem silent_ensure (env : Environment) (name : String) : Silent (ensure env name) :=
  (silent_require _).bind fun p => (silent_ask (·.holds p)).bind fun there => by
    cases there with
    | true => exact silent_pure p
    | false =>
      exact (silent_onDisk _).bind fun _ => (silent_log _ _ _).bind fun _ => silent_pure p

/-- A home that can be had is there afterwards, and nothing else is new but what leads to it. -/
theorem ensure_of_obtainable (hhome : home env name = .ok p) (h : Obtainable p w.disk) :
    ∃ w', (ensure env name).run w = (.ok p, w') ∧ Ran w w' [] [] ∧
      Disk.MadeFor p mode w.disk w'.disk ∧ w'.disk.holds p = .ok true := by
  have hrun := run_ensure hhome w
  obtain hthere | ⟨d, hmake⟩ := h
  · rw [hthere] at hrun
    exact ⟨w, hrun, Ran.refl w, Disk.MadeFor.refl p mode w.disk, hthere⟩
  · have hmade := DiskM.madeFor_makeDirs p mode false w.disk
    rw [(DiskM.makeDir_of_makeDirs hmake).1] at hrun
    simp only [hmake] at hrun hmade
    refine ⟨_, hrun, (ran_disk w d).quiet (ran_noted _ _), ?_, ?_⟩
    · rw [World.disk_noted]
      exact hmade
    · rw [World.disk_noted, Disk.holds, DiskM.stat_of_makeDirs hmake]

/-- To list the homes changes nothing. -/
theorem asks_list (env : Environment) : Asks (list env) :=
  (asks_require _).bind fun p => (asks_ask (·.holds p)).bind fun there => by
    cases there with
    | true =>
      exact (asks_ask (·.list p)).bind fun names =>
        (asks_filterM (fun _ => asks_ask _) names).bind fun _ => asks_pure _
    | false => exact asks_pure []

/-- The homes are what is a directory among what is in their directory. -/
theorem run_list {p : Path} (hdir : dir env = .ok p) {names : List String} {keep : String → Bool}
    (hthere : w.disk.holds p = .ok true) (hnames : w.disk.list p = .ok names)
    (hkeep : ∀ x ∈ names, w.disk.holdsDir (p.child x) = .ok (keep x)) :
    (list env).run w = (.ok ((names.filter keep).mergeSort fun a b => decide (a ≤ b)), w) := by
  have hdir' : (require (dir env)).run w = (.ok p, w) := by rw [run_require, hdir]
  have hholds : (ask (·.holds p)).run w = (.ok true, w) := by rw [run_ask, hthere]; rfl
  have hlist : (ask (·.list p)).run w = (.ok names, w) := by rw [run_ask, hnames]; rfl
  have hfilter := run_filterM (w := w) fun x hx => show (ask (·.holdsDir (p.child x))).run w =
    (.ok (keep x), w) by rw [run_ask, hkeep x hx]; rfl
  rw [list, run_bind_ok hdir', run_bind_ok hholds, if_pos rfl, run_bind_ok hlist,
    run_bind_ok hfilter]
  rfl

end Homes

end BoxWarden
