import BoxWarden.Proofs.Command.Plan
import BoxWarden.Proofs.Command.Tool
import BoxWarden.Proofs.Homes

/-!
Building a container anew. What the commands that take it down come to does not matter; the home is
there before the create command starts, and only that command decides the result.
-/

namespace BoxWarden

open Session

namespace Plan

variable {env : Environment} {store : Store} {name image : String} {host : Option Host}
  {plan : Plan} {w : World} {home : Path}

/-- What a plan shows of itself. -/
def shown (plan : Plan) (dryRun : Bool) : List (Stream × String) :=
  [(.out, Terminal.header plan.command plan.compiled.summary dryRun)]

/-- A plan is shown, and the home is there before the create command starts. -/
theorem execute_of_obtainable (hhome : Homes.home env plan.name = .ok home)
    (h : Homes.Obtainable home w.disk) :
    ∃ before, Ran w before [] (plan.shown false) ∧
      Disk.MadeFor home Homes.mode w.disk before.disk ∧ before.disk.holds home = .ok true ∧
      (plan.execute env false).run w = (Tool.create plan.command).run before := by
  obtain ⟨w₁, hprint, hdisk₁, hran₁⟩ :=
    does_print .out (Terminal.header plan.command plan.compiled.summary false) w
  rw [← hdisk₁] at h
  obtain ⟨before, hensure, hran, hmade, hthere⟩ := Homes.ensure_of_obtainable hhome h
  rw [hdisk₁] at hmade
  refine ⟨before, hran₁.quiet hran, hmade, hthere, ?_⟩
  exact (run_bind_ok hprint _).trans (run_bind_ok hensure _)

/-- Once a container has been taken down and its plan shown, all that is left is the create
command, and the home is there for it. -/
theorem recreate_of_obtainable {t : String} (ht : w.disk.textAt store.path = .ok t)
    (hhome : Homes.home env name = .ok home) (hcan : Homes.Obtainable home w.disk)
    (hreplies : ∀ k < 3, (w.reply k).refusal? = none) (asked : Option String) (default : String)
    (host : Option Host) :
    ∃ plan before,
      planned env store name (imageFor asked (Tool.listed name w.next) default) host w.disk =
        .ok plan ∧
      Ran w before (Tool.takedown name) (plan.shown false) ∧
      Disk.MadeFor home Homes.mode w.disk before.disk ∧ before.disk.holds home = .ok true ∧
      (recreate env store name asked default host false).run w =
        (do Tool.create plan.command; pure plan : Session Plan).run before := by
  obtain ⟨w₁, hteardown, hdisk₁, hran₁⟩ := (Tool.attempts_teardown name w).does hreplies
  obtain ⟨plan, hplanned⟩ :=
    exists_planned ht hhome (imageFor asked (Tool.listed name w.next) default) host
  obtain ⟨rfl, -⟩ := of_planned hplanned
  obtain ⟨w₂, hmake, hdisk₂, hran₂⟩ := does_make env store plan.name
    (imageFor asked (Tool.listed plan.name w.next) default) host w₁
  rw [hdisk₁, hplanned] at hmake
  rw [hdisk₁] at hdisk₂
  obtain ⟨before, hran₃, hmade, hthere, hexecute⟩ := execute_of_obtainable hhome (hdisk₂ ▸ hcan)
  rw [hdisk₂] at hmade
  refine ⟨plan, before, hplanned, (hran₁.quiet hran₂).trans hran₃, hmade, hthere, ?_⟩
  refine (run_bind_ok hteardown _).trans ((run_bind_ok hmake _).trans ?_)
  rw [run_bind, run_bind, hexecute]

/-- A container is built anew by four commands, each started once and in this order, if its home can
be had and no call fails but for a missing program. What the first three come to does not matter but
for the image; the last one decides the result, and nothing is undone if it fails. It starts in a
world in which the home is there. No file changes, and no directory is new but the home and what
leads to it. -/
theorem recreate_protocol {t : String} (ht : (store.text.run w).1 = .ok t)
    (hhome : Homes.home env name = .ok home) (hcan : Homes.Obtainable home w.disk)
    (hreplies : ∀ k < 4, (w.reply k).refusal? = none) (asked : Option String) (default : String)
    (host : Option Host) :
    ∃ plan before w',
      ((make env store name (imageFor asked (Tool.listed name w.next) default) host).run w).1 =
          .ok plan ∧
        Ran w before
          [(["distrobox", "list", "--no-color"], true),
            (["distrobox", "stop", "--yes", name], true),
            (["distrobox", "rm", "--force", name], true)]
          [(.out, Terminal.header plan.command plan.compiled.summary false)] ∧
        before.disk.holds home = .ok true ∧
        Disk.MadeFor home 0o700 w.disk before.disk ∧
        (recreate env store name asked default host false).run w =
          (do Tool.create plan.command; pure plan : Session Plan).run before ∧
        (recreate env store name asked default host false).run w =
          (match w.reply 3 with
            | .ended code _ _ =>
              if code = 0 then .ok plan else .error (.tool ⟨plan.command, some code, ""⟩)
            | .refused _ =>
              .error (.tool ⟨plan.command, none, "distrobox not found on PATH"⟩), w') ∧
        w'.started = w.started ++
          [(["distrobox", "list", "--no-color"], true),
            (["distrobox", "stop", "--yes", name], true),
            (["distrobox", "rm", "--force", name], true), (plan.command, false)] ∧
        w'.disk = before.disk ∧
        ∀ l, w'.disk.file? l = w.disk.file? l := by
  obtain ⟨plan, before, hplanned, hran, hmade, hthere, hrun⟩ :=
    recreate_of_obtainable (Store.textAt_of_text store w ht) hhome hcan
      (fun k hk => hreplies k (Nat.lt_succ_of_lt hk)) asked default host
  obtain ⟨-, rest, hcommand⟩ := of_planned hplanned
  obtain ⟨w₀, hmake, -, -⟩ := does_make env store name
    (imageFor asked (Tool.listed name w.next) default) host w
  obtain ⟨w', hcreate, hdisk', hran'⟩ := Tool.does_create plan.command before
  have hresult : (do Tool.create plan.command; pure plan : Session Plan).run before =
      ((Tool.created plan.command (w.reply 3)).map fun _ => plan, w') := by
    rw [run_bind, hcreate, show before.next = w.reply 3 from hran.next]
    cases Tool.created plan.command (w.reply 3) <;> rfl
  refine ⟨plan, before, w', by rw [hmake, hplanned], hran, hthere, hmade, hrun, ?_, ?_, hdisk', ?_⟩
  · rw [hrun, hresult, hcommand]
    obtain ⟨code, out, err, hlast⟩ | hlast := Reply.ended_or_missing (hreplies 3 (by decide))
    · rw [hlast]
      by_cases hcode : code = 0 <;>
        simp [Tool.created, Tool.outcome, Except.bind, Except.map, hcode]
    · rw [hlast]
      rfl
  · exact (hran.trans hran').started
  · intro l
    rw [hdisk', hmade.grown.file?]

theorem recreate_protocol_desk :
    ∃ (plan : Plan) (w' : World),
      (recreate { home := "/home/me" } Store.deskStore "dev" none "fedora" none false).run
          { disk := Store.desk, replies := [.refused .notFound, .ended 1 "" "no such container",
            .ended 0 "" "", .ended (-9) "" ""] } =
        (.error (.tool ⟨plan.command, some (-9), ""⟩), w') ∧
      w'.started =
        [(["distrobox", "list", "--no-color"], true),
          (["distrobox", "stop", "--yes", "dev"], true),
          (["distrobox", "rm", "--force", "dev"], true), (plan.command, false)] ∧
      w'.disk.holds
        ⟨.slash, ["home", "me", ".local", "share", "distrobox-secure", "homes", "dev"]⟩ =
          .ok true := by
  have hreplies : ∀ k < 4, (World.reply { disk := Store.desk, replies := [.refused .notFound,
      .ended 1 "" "no such container", .ended 0 "" "", .ended (-9) "" ""] } k).refusal? = none := by
    decide
  obtain ⟨plan, before, w', -, -, hthere, -, -, hrun, hstarted, hdisk, -⟩ :=
    @recreate_protocol { home := "/home/me" } Store.deskStore "dev" _ _ _
      (by rw [Store.run_text, Store.holding_desk.textAt]; rfl) rfl (.inr ⟨_, rfl⟩) hreplies
      none "fedora" none
  exact ⟨plan, w', hrun, hstarted, hdisk ▸ hthere⟩

end Plan

end BoxWarden
