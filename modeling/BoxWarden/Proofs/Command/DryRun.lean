import BoxWarden.Proofs.Command.Recreate
import BoxWarden.Proofs.Shell.RoundTrip

/-!
A dry run beside the real one. It only lists the containers; the command and the summary that it
shows are those of the real run, if that one comes to its create command at all.
-/

namespace BoxWarden

open Session

namespace Plan

variable {env : Environment} {store : Store} {name default : String} {asked : Option String}
  {host : Option Host} {w : World}

/-- The plan for building a container anew, from the tree and what the list command comes to. -/
def foreseen (env : Environment) (store : Store) (name : String) (asked : Option String)
    (default : String) (host : Option Host) (d : Disk) (list : Reply) : Except Fault Plan :=
  (list.forgiven (Tool.listed name list)).bind fun existing =>
    planned env store name (imageFor asked existing default) host d

theorem textOn_shown (plan : Plan) (dryRun : Bool) : textOn .out (plan.shown dryRun) =
    Terminal.header plan.command plan.compiled.summary dryRun := by
  simp [textOn, shown]

theorem textOn_err_shown (plan : Plan) (dryRun : Bool) : textOn .err (plan.shown dryRun) = "" := by
  simp [textOn, shown]

theorem does_execute_dry (env : Environment) (plan : Plan) (w : World) :
    Does (plan.execute env true) w (.ok ()) [] (plan.shown true) :=
  (does_print .out _ w).bind fun w' _ _ => does_pure _ w'

/-- Carrying out a plan shows it, and starts its command unless the home cannot be had. -/
theorem ran_execute (env : Environment) (plan : Plan) (w : World) :
    ∃ r w' cs, (plan.execute env false).run w = (r, w') ∧ Ran w w' cs (plan.shown false) ∧
      (cs = [] ∧ (∃ e, r = .error e) ∨ cs = [(plan.command, false)]) := by
  obtain ⟨w₁, hprint, -, hran₁⟩ :=
    does_print .out (Terminal.header plan.command plan.compiled.summary false) w
  rcases hensure : (Homes.ensure env plan.name).run w₁ with ⟨e | home, w₂⟩
  · have hrun : (plan.execute env false).run w = (.error e, w₂) :=
      (run_bind_ok hprint _).trans (run_bind_error hensure _)
    exact ⟨_, _, [], hrun, hran₁.quiet ((Homes.silent_ensure env plan.name).ran hensure),
      .inl ⟨rfl, e, rfl⟩⟩
  · obtain ⟨w₃, hcreate, -, hran₃⟩ := Tool.does_create plan.command w₂
    have hrun : (plan.execute env false).run w = _ :=
      (run_bind_ok hprint _).trans ((run_bind_ok hensure _).trans hcreate)
    have hran₂ := hran₁.quiet ((Homes.silent_ensure env plan.name).ran hensure)
    exact ⟨_, _, _, hrun, hran₂.trans hran₃, .inr rfl⟩

/-- A dry run lists the containers and, if there is a plan, shows it. -/
theorem does_recreate_dry (env : Environment) (store : Store) (name : String)
    (asked : Option String) (default : String) (host : Option Host) (w : World) :
    ∃ ts, Does (recreate env store name asked default host true) w
      (foreseen env store name asked default host w.disk w.next) [(Tool.listCommand, true)] ts ∧
      ∀ plan, foreseen env store name asked default host w.disk w.next = .ok plan →
        ts = plan.shown true := by
  have hlist := Tool.does_findOrNone source name w
  unfold foreseen
  cases hlisted : w.next.forgiven (Tool.listed name w.next) with
  | error e =>
    rw [hlisted] at hlist
    exact ⟨[], hlist.bind_error _, by simp [Except.bind]⟩
  | ok existing =>
    rw [hlisted] at hlist
    simp only [Except.bind]
    have hmake (w₁ : World) (hdisk₁ : w₁.disk = w.disk) := hdisk₁ ▸
      does_make env store name (imageFor asked existing default) host w₁
    cases hplanned : planned env store name (imageFor asked existing default) host w.disk with
    | error e =>
      refine ⟨[], hlist.bind fun w₁ hdisk₁ _ => ?_, by simp⟩
      exact (hplanned ▸ hmake w₁ hdisk₁).bind_error _
    | ok plan =>
      refine ⟨plan.shown true, hlist.bind fun w₁ hdisk₁ _ => ?_, by simp⟩
      refine (hplanned ▸ hmake w₁ hdisk₁).bind fun w₂ _ _ => ?_
      exact (does_execute_dry env plan w₂).bind fun w₃ _ _ => does_pure plan w₃

/-- A real run starts some of the commands that take the container down, or all of them and the
command of the plan. -/
theorem ran_recreate (env : Environment) (store : Store) (name : String)
    (asked : Option String) (default : String) (host : Option Host) (w : World) :
    ∃ r w' cs ts, (recreate env store name asked default host false).run w = (r, w') ∧
      Ran w w' cs ts ∧
      (cs <+: Tool.takedown name ∨
        ∃ plan, foreseen env store name asked default host w.disk w.next = .ok plan ∧
          cs = Tool.takedown name ++ [(plan.command, false)] ∧ ts = plan.shown false) := by
  obtain ⟨hreplies, w₁, hrun₁, hdisk₁, hran₁⟩ | ⟨k, e, -, -, w₁, hrun₁, -, hran₁⟩ :=
    Tool.attempts_teardown name w
  · have hforeseen : foreseen env store name asked default host w.disk w.next =
        planned env store name (imageFor asked (Tool.listed name w.next) default) host w.disk := by
      have hnext : w.next.refusal? = none := hreplies 0 (Nat.zero_lt_succ _)
      rw [foreseen, Reply.forgiven_of_none hnext]
      rfl
    rw [hforeseen]
    obtain ⟨w₂, hrun₂, -, hran₂⟩ :=
      does_make env store name (imageFor asked (Tool.listed name w.next) default) host w₁
    rw [hdisk₁] at hrun₂
    cases hplanned : planned env store name (imageFor asked (Tool.listed name w.next) default) host
        w.disk with
    | error e =>
      rw [hplanned] at hrun₂
      have hrun : (recreate env store name asked default host false).run w = (.error e, w₂) :=
        (run_bind_ok hrun₁ _).trans (run_bind_error hrun₂ _)
      exact ⟨_, _, _, [], hrun, hran₁.quiet hran₂, .inl (List.prefix_refl _)⟩
    | ok plan =>
      rw [hplanned] at hrun₂
      obtain ⟨r, w₃, cs, hexecute, hran₃, hcs⟩ := ran_execute env plan w₂
      have hrun : (recreate env store name asked default host false).run w =
          (r.map fun _ => plan, w₃) := by
        refine (run_bind_ok hrun₁ _).trans ((run_bind_ok hrun₂ _).trans ?_)
        rw [run_bind, hexecute]
        cases r <;> rfl
      refine ⟨_, _, _, _, hrun, (hran₁.quiet hran₂).trans hran₃, ?_⟩
      obtain ⟨rfl, -⟩ | rfl := hcs
      · exact .inl (by simp)
      · exact .inr ⟨plan, rfl, rfl, rfl⟩
  · exact ⟨_, _, _, [], run_bind_error hrun₁ _, hran₁, .inl (List.take_prefix _ _)⟩

/-- The two ways to carry out a plan print the same but for one word. -/
theorem execute_texts (env : Environment) (plan : Plan) (w : World) :
    ∃ dry r real, (plan.execute env true).run w = (.ok (), dry) ∧
      (plan.execute env false).run w = (r, real) ∧
      dry.disk = w.disk ∧ dry.started = w.started ∧
      (∃ before after,
        dry.printed .out = w.printed .out ++ (before ++ "Would execute:" ++ after) ∧
        real.printed .out = w.printed .out ++ (before ++ "Executing:" ++ after)) ∧
      (w.echo = false →
        dry.printed .err = w.printed .err ∧ real.printed .err = w.printed .err) := by
  obtain ⟨dry, hdry, hdisk, hran⟩ := does_execute_dry env plan w
  obtain ⟨r, real, cs, hreal, hran', -⟩ := ran_execute env plan w
  refine ⟨dry, r, real, hdry, hreal, hdisk, by simpa using hran.started, ?_, fun hecho => ?_⟩
  · refine ⟨Terminal.rule ++ "\n", "\n" ++ Shell.join plan.command ++ "\n" ++
      (if plan.compiled.summary = "" then "" else "\n" ++ plan.compiled.summary ++ "\n") ++
        Terminal.rule ++ "\n\n", ?_, ?_⟩
    · rw [hran.printed (by simp), textOn_shown]
      simp only [Terminal.header, if_true, String.append_assoc]
    · rw [hran'.printed (by simp), textOn_shown]
      simp only [Terminal.header, Bool.false_eq_true, if_false, String.append_assoc]
  · have hquiet : Stream.err = .err → w.echo = false := fun _ => hecho
    rw [hran.printed hquiet, hran'.printed hquiet, textOn_err_shown, textOn_err_shown]
    simp

/-- A dry run starts nothing but the list command and changes nothing; the text that it shows is
read back as the command of its plan. A real run on the same tree, which finds the same containers,
starts no other create command and shows the same summary. The two ways to carry out a plan print
the same but for one word. -/
theorem dry_run_foretells {v : World} (hdisk : v.disk = w.disk) (hnext : v.next = w.next)
    (env : Environment) (store : Store) (name : String) (asked : Option String) (default : String)
    (host : Option Host) :
    (∃ result dry r real,
      (recreate env store name asked default host true).run w = (result, dry) ∧
      (recreate env store name asked default host false).run v = (r, real) ∧
      dry.disk = w.disk ∧
      dry.started = w.started ++ [(["distrobox", "list", "--no-color"], true)] ∧
      (∀ plan, result = .ok plan → ∃ t rest, Shell.split t = .ok plan.command ∧
        dry.printed .out = w.printed .out ++
          (Terminal.rule ++ "\n" ++ "Would execute:" ++ "\n" ++ t ++ "\n" ++ rest)) ∧
      ∃ cs, real.started = v.started ++ cs ∧
        (cs <+: [(["distrobox", "list", "--no-color"], true),
            (["distrobox", "stop", "--yes", name], true),
            (["distrobox", "rm", "--force", name], true)] ∨
          ∃ plan, result = .ok plan ∧
            cs = [(["distrobox", "list", "--no-color"], true),
              (["distrobox", "stop", "--yes", name], true),
              (["distrobox", "rm", "--force", name], true), (plan.command, false)] ∧
            dry.printed .out = w.printed .out ++
              Terminal.header plan.command plan.compiled.summary true ∧
            real.printed .out = v.printed .out ++
              Terminal.header plan.command plan.compiled.summary false)) ∧
    ∀ (plan : Plan) (x : World), ∃ dry r real, (plan.execute env true).run x = (.ok (), dry) ∧
      (plan.execute env false).run x = (r, real) ∧
      dry.disk = x.disk ∧ dry.started = x.started ∧
      (∃ before after,
        dry.printed .out = x.printed .out ++ (before ++ "Would execute:" ++ after) ∧
        real.printed .out = x.printed .out ++ (before ++ "Executing:" ++ after)) ∧
      (x.echo = false →
        dry.printed .err = x.printed .err ∧ real.printed .err = x.printed .err) := by
  refine ⟨?_, fun plan x => execute_texts env plan x⟩
  obtain ⟨ts, ⟨dry, hdry, hsame, hran⟩, hshown⟩ :=
    does_recreate_dry env store name asked default host w
  obtain ⟨r, real, cs, ts', hreal, hran', hcs⟩ := ran_recreate env store name asked default host v
  rw [hdisk, hnext] at hcs
  refine ⟨_, dry, r, real, hdry, hreal, hsame, hran.started, fun plan hplan => ?_, cs,
    hran'.started, ?_⟩
  · refine ⟨Shell.join plan.command,
      (if plan.compiled.summary = "" then "" else "\n" ++ plan.compiled.summary ++ "\n") ++
        Terminal.rule ++ "\n\n", Shell.split_join _, ?_⟩
    rw [hran.printed (by simp), hshown plan hplan, textOn_shown]
    simp only [Terminal.header, if_true, String.append_assoc]
  · obtain hprefix | ⟨plan, hplan, rfl, rfl⟩ := hcs
    · exact .inl hprefix
    · refine .inr ⟨plan, hplan, rfl, ?_, ?_⟩
      · rw [hran.printed (by simp), hshown plan hplan, textOn_shown]
      · rw [hran'.printed (by simp), textOn_shown]

theorem dry_run_foretells_desk :
    ∃ (plan : Plan) (dry : World),
      (recreate { home := "/home/me" } Store.deskStore "dev" none "fedora" none true).run
          { disk := Store.desk, replies := [.refused .notFound] } = (.ok plan, dry) ∧
        dry.started = [(["distrobox", "list", "--no-color"], true)] ∧
        ∃ t rest, Shell.split t = .ok plan.command ∧ dry.printed .out =
          Terminal.rule ++ "\n" ++ "Would execute:" ++ "\n" ++ t ++ "\n" ++ rest := by
  obtain ⟨⟨result, dry, -, -, hdry, -, -, hstarted, hshown, -⟩, -⟩ :=
    @dry_run_foretells { disk := Store.desk, replies := [.refused .notFound] }
      { disk := Store.desk, replies := [.refused .notFound, .ended 1 "" "", .ended 0 "" ""] }
      rfl rfl { home := "/home/me" } Store.deskStore "dev" none "fedora" none
  obtain ⟨plan, hplan⟩ : ∃ plan, foreseen { home := "/home/me" } Store.deskStore "dev" none "fedora"
      none Store.desk (.refused .notFound) = .ok plan := by
    have hhome : Homes.home { home := "/home/me" } "dev" =
        .ok ⟨.slash, ["home", "me", ".local", "share", "distrobox-secure", "homes", "dev"]⟩ := rfl
    rw [foreseen, Reply.forgiven_of_none rfl]
    exact exists_planned Store.holding_desk.textAt hhome _ _
  obtain ⟨ts, ⟨dry', hdry', -⟩, -⟩ := does_recreate_dry { home := "/home/me" } Store.deskStore "dev"
    none "fedora" none { disk := Store.desk, replies := [.refused .notFound] }
  obtain ⟨hresult, -⟩ := Prod.mk.inj (hdry.symm.trans hdry')
  have hok := hresult.trans hplan
  obtain ⟨t, rest, hread, hprinted⟩ := hshown _ hok
  exact ⟨plan, dry, hok ▸ hdry, hstarted, t, rest, hread, by simpa [World.printed] using hprinted⟩

end Plan

end BoxWarden
