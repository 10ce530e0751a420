import BoxWarden.Plan
import BoxWarden.Proofs.Command.Reading
import BoxWarden.Proofs.Store.Ledger

/-!
A plan from the file of grants to the command. It fails only where the home of the container cannot
be found; else its command says what the grants say, and nothing more.
-/

namespace BoxWarden

open Session

theorem Homes.home_of_isContainerName {env : Environment} {name : String}
    (hn : isContainerName name = true) :
    Homes.home env name = (Homes.dir env).map fun dir => dir.child name := by
  rw [Homes.home, checkName, if_pos hn]
  cases Homes.dir env <;> rfl

/-- What is no name has no home, whatever the user's home is. -/
theorem Homes.home_of_badName {env : Environment} {name : String}
    (hn : isContainerName name = false) : home env name = .error (.badName name) := by
  rw [home, checkName, if_neg (by simp [hn])]
  rfl

namespace Plan

/-- The plan for a container from its grants. -/
def ofRecords (name image : String) (home : Path) (host : Host) (records : List Record) : Plan :=
  let c := compile host records
  ⟨name, image, createCommand name image home.text c.unshare c.flags, c⟩

theorem run_compileNoted (h : Host) (records : List Record) (w : World) :
    ∃ w', w'.disk = w.disk ∧ (compileNoted h records).run w = (.ok (compile h records), w') := by
  let entry (r : Record) : LogEntry := ⟨.warning, "compiler", ignoredNote r⟩
  exact ⟨_, World.disk_foldl_noted _ w,
    run_bind_ok (run_forM_log entry (compile h records).ignored w) _⟩

/-- Planning reads the grants of the container, and does nothing that could go wrong after that but
look for the home of the container. It changes nothing in the tree. -/
theorem run_make_of_list (env : Environment) (store : Store) (name image : String)
    (host : Option Host) (w : World) : ∃ w', w'.disk = w.disk ∧
    (make env store name image host).run w =
      (((store.list name).run w).1.bind fun records => (Homes.home env name).map fun home =>
        ofRecords name image home (host.getD env.host) records, w') := by
  obtain ⟨w₁, hw₁, hlist⟩ := Store.run_list store w name
  cases ht : w.disk.textAt store.path with
  | error e =>
    rw [ht] at hlist
    exact ⟨w₁, hw₁, by rw [make, run_bind_error hlist, hlist]; rfl⟩
  | ok t =>
    rw [ht] at hlist
    obtain ⟨w₂, hw₂, hnoted⟩ := run_compileNoted (host.getD env.host)
      ((Store.grantsIn t).filter (·.container = name)) w₁
    rw [make, run_bind_ok hlist, run_bind_ok hnoted, hlist, run_bind, run_require]
    cases Homes.home env name with
    | error e => exact ⟨w₂, hw₂.trans hw₁, rfl⟩
    | ok home =>
      simp only [run_bind, run_log, run_pure]
      exact ⟨_, (World.disk_noted _ _).trans (hw₂.trans hw₁), rfl⟩

theorem run_make (env : Environment) (store : Store) (name image : String) (host : Option Host)
    {w : World} {t : String} (ht : w.disk.textAt store.path = .ok t) : ∃ w', w'.disk = w.disk ∧
    (make env store name image host).run w = ((Homes.home env name).map fun home =>
      ofRecords name image home (host.getD env.host)
        ((Store.grantsIn t).filter (·.container = name)), w') := by
  obtain ⟨w₁, -, hlist⟩ := Store.run_list store w name
  obtain ⟨w', hw', hmake⟩ := run_make_of_list env store name image host w
  refine ⟨w', hw', ?_⟩
  rw [hmake, hlist, ht]
  rfl

/-- What planning comes to, from the tree alone. -/
def planned (env : Environment) (store : Store) (name image : String) (host : Option Host)
    (d : Disk) : Except Fault Plan :=
  ((d.textAt store.path).mapError Fault.disk).bind fun t =>
    (Homes.home env name).map fun home => ofRecords name image home (host.getD env.host)
      ((Store.grantsIn t).filter (·.container = name))

theorem silent_make (env : Environment) (store : Store) (name image : String)
    (host : Option Host) : Silent (make env store name image host) :=
  (store.silent_list name).bind fun _ =>
    ((silent_forM _ fun _ => silent_log _ _ _).bind fun _ => silent_pure _).bind fun _ =>
      (silent_require _).bind fun _ => (silent_log _ _ _).bind fun _ => silent_pure _

theorem does_make (env : Environment) (store : Store) (name image : String) (host : Option Host)
    (w : World) :
    Does (make env store name image host) w (planned env store name image host w.disk) [] [] := by
  obtain ⟨w₁, -, hlist⟩ := Store.run_list store w name
  obtain ⟨w', hdisk, hrun⟩ := run_make_of_list env store name image host w
  refine (silent_make env store name image host).does hdisk ?_
  rw [hrun, hlist, planned]
  cases w.disk.textAt store.path <;> rfl

theorem exists_planned {env : Environment} {store : Store} {d : Disk} {t name : String}
    {home : Path} (ht : d.textAt store.path = .ok t) (hhome : Homes.home env name = .ok home)
    (image : String) (host : Option Host) : ∃ plan, planned env store name image host d = .ok plan := by
  rw [planned, ht, hhome]
  exact ⟨_, rfl⟩

/-- How the create command of a container starts. -/
def opening (name image : String) : List String :=
  [program, "create", "--name", name, "--image", image]

theorem of_planned {env : Environment} {store : Store} {name image : String} {host : Option Host}
    {plan : Plan} {d : Disk} (h : planned env store name image host d = .ok plan) :
    plan.name = name ∧ ∃ rest, plan.command = opening name image ++ rest := by
  unfold planned at h
  cases ht : d.textAt store.path with
  | error e =>
    rw [ht] at h
    cases h
  | ok t =>
    rw [ht] at h
    cases hhome : Homes.home env name with
    | error e =>
      rw [hhome] at h
      cases h
    | ok home =>
      rw [hhome] at h
      obtain rfl := Except.ok.inj h
      exact ⟨rfl, _, rfl⟩

/-- The command of a plan is read back as what the grants were compiled to, with the hardening last,
whatever the values of the grants are. -/
theorem command_reads_back {env : Environment} {store : Store} {w : World} {t name : String}
    (ht : (store.text.run w).1 = .ok t) (hn : isContainerName name = true) (image : String)
    (host : Option Host) :
    (∃ e, Homes.dir env = .error e ∧
        ((make env store name image host).run w).1 = .error e) ∨
      ∃ dir plan rest items, Homes.dir env = .ok dir ∧
        ((make env store name image host).run w).1 = .ok plan ∧
        plan.compiled = compile (host.getD env.host)
          ((Store.grantsIn t).filter (·.container = name)) ∧
        plan.command = ["distrobox", "create", "--name", name, "--image", image, "--home",
          (dir.child name).text, "--no-entry"] ++ rest ∧
        readArguments rest = some items ∧
        items = plan.compiled.unshare.map (fun flag => .own [flag]) ++
          plan.compiled.flags.map Flag.item ++
            [.engine ["--security-opt", "no-new-privileges"], .engine ["--cap-drop", "ALL"],
              .engine ["--read-only-tmpfs"]] ∧
        items.flatMap Item.tokens = plan.compiled.tokens ++
          ["--security-opt", "no-new-privileges", "--cap-drop", "ALL", "--read-only-tmpfs"] := by
  obtain ⟨w', -, hmake⟩ := run_make env store name image host (Store.textAt_of_text store w ht)
  replace hmake := congrArg Prod.fst hmake
  rw [Homes.home_of_isContainerName hn] at hmake
  cases hdir : Homes.dir env with
  | error e =>
    rw [hdir] at hmake
    exact .inl ⟨e, rfl, hmake⟩
  | ok dir =>
    rw [hdir] at hmake
    have hread := readArguments_compile (host.getD env.host)
      ((Store.grantsIn t).filter (·.container = name))
    rw [List.append_assoc] at hread
    refine .inr ⟨dir, _, _, _, rfl, hmake, rfl, ?_, hread, rfl, tokens_items _⟩
    simp [ofRecords, createCommand, program]

theorem command_reads_back_desk :
    (Store.deskStore.text.run { disk := Store.desk }).1 = .ok "# mine\r\ndev:gpu:1" ∧
      isContainerName "dev" = true ∧
      ∃ plan rest, ((make { home := "/home/me" } Store.deskStore "dev" "fedora" none).run
          { disk := Store.desk }).1 = .ok plan ∧
        plan.command = ["distrobox", "create", "--name", "dev", "--image", "fedora", "--home",
          "/home/me/.local/share/distrobox-secure/homes/dev", "--no-entry"] ++ rest ∧
        readArguments rest = some [.own ["--unshare-netns"], .own ["--unshare-devsys"],
          .own ["--unshare-groups"], .own ["--unshare-ipc"], .own ["--unshare-process"],
          .engine ["--device", "/dev/dri"], .engine ["--device", "nvidia.com/gpu=all"],
          .engine ["--security-opt", "no-new-privileges"], .engine ["--cap-drop", "ALL"],
          .engine ["--read-only-tmpfs"]] := by
  have ht : (Store.deskStore.text.run { disk := Store.desk }).1 = .ok "# mine\r\ndev:gpu:1" := by
    rw [Store.run_text, Store.holding_desk.textAt]
    rfl
  have hn : isContainerName "dev" = true := by decide
  refine ⟨ht, hn, ?_⟩
  have hdir : Homes.dir { home := "/home/me" } =
      .ok ⟨.slash, ["home", "me", ".local", "share", "distrobox-secure", "homes"]⟩ := rfl
  obtain ⟨e, herr, -⟩ | ⟨dir, plan, rest, items, hok, hmake, hcompiled, hcommand, hread, hitems, -⟩ :=
    @command_reads_back { home := "/home/me" } Store.deskStore { disk := Store.desk } _ "dev" ht hn
      "fedora" none
  · rw [hdir] at herr
    cases herr
  · rw [hdir] at hok
    cases hok
    refine ⟨plan, rest, hmake, hcommand, ?_⟩
    rw [hread, hitems, hcompiled]
    decide

end Plan

end BoxWarden
