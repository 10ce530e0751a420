import BoxWarden.CommandLine.Run
import BoxWarden.Proofs.Command.Recreate

/-!
Exit codes of the requests that create a container. The create command alone decides them: its own
code if it is positive, and one if it was killed or is missing. Success and failure are told apart
on the terminal as well.
-/

namespace BoxWarden

open Session

namespace Terminal

/-- The text of a status line. -/
def statusLine (terminal : Bool) (s : Severity) (message : String) : String :=
  paint terminal s.colour s.tag ++ " " ++ message ++ "\n"

theorem does_say (s : Severity) (message : String) (w : World) :
    Does (say s message) w (.ok ()) []
      [(s.stream, statusLine (w.isTerminal s.stream) s message)] :=
  ⟨_, rfl, rfl, ran_printed w s.stream (statusLine (w.isTerminal s.stream) s message)⟩

theorem does_printErrorBox (title : String) (lines : List String) (w : World) :
    Does (printErrorBox title lines) w (.ok ()) [] [(.err, errorBox w.errIsTerminal title lines)] :=
  ⟨_, rfl, rfl, ran_printed w .err (errorBox w.errIsTerminal title lines)⟩

theorem head_rule : rule.toList.head? = some '=' := by
  unfold rule
  rw [String.toList_ofList, List.head?_replicate]
  rfl

/-- Boxes and headers start with a line of their own kind, and nothing else does. -/
theorem head_errorBox (terminal : Bool) (title : String) (lines : List String) :
    (errorBox terminal title lines).toList.head? = some '=' := by
  simp only [errorBox, List.cons_append, List.map_cons, String.join_cons, String.toList_append,
    List.head?_append, head_rule, Option.some_or]

theorem head_header (command : List String) (summary : String) (dryRun : Bool) :
    (header command summary dryRun).toList.head? = some '=' := by
  simp only [header, String.toList_append, List.head?_append, head_rule, Option.some_or]

theorem head_statusLine (terminal : Bool) (s : Severity) (message : String) :
    (statusLine terminal s message).toList.head? ≠ some '=' := by
  cases terminal <;> cases s <;>
    simp [statusLine, paint, Severity.colour, Severity.tag, red, green, yellow]

theorem errorBox_ne_statusLine (terminal terminal' : Bool) (title message : String)
    (lines : List String) (s : Severity) :
    errorBox terminal title lines ≠ statusLine terminal' s message := by
  intro h
  exact head_statusLine terminal' s message (h ▸ head_errorBox terminal title lines)

theorem statusLine_ne_header (terminal : Bool) (s : Severity) (message summary : String)
    (command : List String) (dryRun : Bool) :
    statusLine terminal s message ≠ header command summary dryRun := by
  intro h
  exact head_statusLine terminal s message (h ▸ head_header command summary dryRun)

end Terminal

theorem LogEntry.head_line (e : LogEntry) : (e.line ++ "\n").toList.head? ≠ some '=' := by
  cases h : e.level <;> simp [line, h, LogLevel.name]

/-- The exit code that stands for the end of a create command. -/
def Reply.exitCode : Reply → Int
  | .ended code .. => if code < 0 then 1 else code
  | .refused _ => 1

namespace Reply

variable {r : Reply}

theorem exitCode_eq_zero_iff (h : r.refusal? = none) :
    r.exitCode = 0 ↔ ∃ out err, r = .ended 0 out err := by
  obtain ⟨code, out, err, rfl⟩ | rfl := ended_or_missing h
  · simp only [exitCode, ended.injEq, exists_and_left, exists_eq', and_true]
    split <;> omega
  · simp [exitCode]

theorem exitCode_eq_code_iff {c : Int} (hc : c ≠ 0) (out err : String) :
    (Reply.ended c out err).exitCode = c ↔ 0 < c := by
  simp only [exitCode]
  split <;> omega

theorem exitCode_eq_one_iff (h : r.refusal? = none) :
    r.exitCode = 1 ↔ (∃ out err, r = .ended 1 out err) ∨
      (∃ c out err, c < 0 ∧ r = .ended c out err) ∨ r = .refused .notFound := by
  obtain ⟨code, out, err, rfl⟩ | rfl := ended_or_missing h
  · simp only [exitCode, ended.injEq, exists_and_left, exists_eq', and_true, reduceCtorEq, or_false,
      exists_eq_right']
    split <;> omega
  · simp [exitCode]

end Reply

namespace CommandLine

open Terminal

variable {env : Environment} {args : List String} {i : Invocation} {name : String}
  {image : Option String} {store : Store} {w w₁ w₂ : World} {home : Path}

/-- A create command ends well, or it fails with the code that stands for its end. -/
theorem created_cases {command : List String} {p : String} {rest : List String} {r : Reply}
    (hcommand : command = p :: rest) (hr : r.refusal? = none) :
    (Tool.created command r = .ok () ∧ r.exitCode = 0) ∨
      ∃ f, Tool.created command r = .error (.tool f) ∧ failureCode f = r.exitCode ∧
        r.exitCode ≠ 0 := by
  subst hcommand
  obtain ⟨code, out, err, rfl⟩ | rfl := Reply.ended_or_missing hr
  · by_cases hcode : code = 0
    · exact .inl ⟨if_pos hcode, by simp [Reply.exitCode, hcode]⟩
    · refine .inr ⟨⟨p :: rest, some code, ""⟩, if_neg hcode, ?_, ?_⟩
      · simp only [failureCode, Reply.exitCode]
        split <;> split <;> omega
      · simp only [Reply.exitCode]
        split <;> omega
  · exact .inr ⟨_, rfl, rfl, by decide⟩

/-- A failed command is shown in a box, and gives an exit code. -/
theorem does_report_tool (f : ToolFailure) (w : World) : ∃ title lines,
    Does (report (.tool f)) w (.ok (failureCode f)) []
      [(.err, errorBox w.errIsTerminal title lines)] := by
  refine ⟨(Fault.tool f).message, ["The container may be partially created.",
    "Clean up and retry with: " ++ appName ++ " recreate <name>"], ?_⟩
  refine (does_log _ _ _ w).bind fun w₁ _ hran => ?_
  rw [← hran.errIsTerminal]
  exact (does_printErrorBox _ _ w₁).bind fun w₂ _ _ => does_pure _ w₂

/-- A refusal is shown in a line, and its exit code is one. -/
theorem does_report_refusal {f : Fault} (hf : f.isRefusal = true) (w : World) :
    Does (report f) w (.ok 1) [] [(.err, statusLine w.errIsTerminal .error f.message)] := by
  unfold report
  rw [if_pos hf]
  exact (does_say .error f.message w).bind fun w₁ _ _ => does_pure 1 w₁

/-- From the create command to the exit code: a line of success, or a box. -/
theorem ends_after_create {command rest : List String} {p : String} (hcommand : command = p :: rest)
    (message : String) {before : World} (hr : before.next.refusal? = none) :
    ∃ w' texts,
      (tryCatch (do Tool.create command; say .info message; pure 0) report : Session Int).run
          before = (.ok before.next.exitCode, w') ∧
        Ran before w' [(command, false)] texts ∧
        (before.next.exitCode = 0 ∧
            texts = [(.out, statusLine before.outIsTerminal .info message)] ∨
          before.next.exitCode ≠ 0 ∧
            ∃ title lines, texts = [(.err, errorBox before.errIsTerminal title lines)]) := by
  obtain ⟨w₁, hcreate, -, hran₁⟩ := Tool.does_create command before
  obtain ⟨hok, hcode⟩ | ⟨f, herror, hcode, hne⟩ := created_cases hcommand hr
  · rw [hok] at hcreate
    obtain ⟨w₂, hsay, -, hran₂⟩ := does_say .info message w₁
    refine ⟨w₂, _, ?_, hran₁.trans hran₂, .inl ⟨hcode, ?_⟩⟩
    · rw [hcode]
      exact run_tryCatch_ok ((run_bind_ok hcreate _).trans (run_bind_ok hsay _)) _
    · rw [← hran₁.outIsTerminal]
      rfl
  · rw [herror] at hcreate
    obtain ⟨title, lines, w₂, hreport, -, hran₂⟩ := does_report_tool f w₁
    refine ⟨w₂, _, ?_, hran₁.trans hran₂, .inr ⟨hne, title, lines, ?_⟩⟩
    · rw [← hcode]
      exact (run_tryCatch_error (run_bind_error hcreate _) _).trans hreport
    · rw [← hran₁.errIsTerminal]
      rfl

/-- The commands that a request runs before its create command. -/
def Request.earlier : Request → List (List String × Bool)
  | .recreate name _ => [(["distrobox", "list", "--no-color"], true),
      (["distrobox", "stop", "--yes", name], true), (["distrobox", "rm", "--force", name], true)]
  | _ => []

/-- What a request says when it has created its container. -/
def Request.done : Request → String
  | .create name _ => "Container '" ++ name ++ "' created. Enter it with: distrobox enter " ++ name
  | .recreate name _ => "Container '" ++ name ++ "' recreated with current permissions"
  | _ => ""

/-- A run comes to its create command, and all that is left is that command and the line of
success. -/
def Leads (m : Session Int) (request : Request) (name : String) (w : World) : Prop :=
  ∃ (plan : Plan) (before : World) (rest : List String),
    plan.command = "distrobox" :: "create" :: "--name" :: name :: rest ∧
      Ran w before request.earlier (plan.shown false) ∧
      m.run w = (do
        Tool.create plan.command
        say .info request.done
        pure 0 : Session Int).run before

section
variable {made : Bool} {t : String} (hn : isContainerName name = true)
  (hensure : store.ensureExists.run w = (.ok made, w₁)) (ht : w₁.disk.textAt store.path = .ok t)
  (hhome : Homes.home env name = .ok home) (hcan : Homes.Obtainable home w₁.disk)
include hn hensure ht hhome hcan

theorem runCreate_leads (image : Option String) :
    Leads (runCreate env store false name image) (.create name image) name w := by
  obtain ⟨w₂, hmake, hdisk, hran₂⟩ :=
    Plan.does_make env store name ((nonEmpty? image).getD env.defaultImage) none w₁
  obtain ⟨plan, hplanned⟩ :=
    Plan.exists_planned ht hhome ((nonEmpty? image).getD env.defaultImage) none
  obtain ⟨hplan, rest, hcommand⟩ := Plan.of_planned hplanned
  rw [hplanned] at hmake
  obtain ⟨before, hran₃, -, -, hexecute⟩ :=
    Plan.execute_of_obtainable (hplan.symm ▸ hhome) (hdisk ▸ hcan)
  have hran₁ := store.silent_ensureExists.ran hensure
  refine ⟨plan, before, _, hcommand, (hran₁.quiet hran₂).trans hran₃, ?_⟩
  have hname : (require (checkName name)).run w = (.ok name, w) := by
    rw [run_require, checkName, if_pos hn]
  refine (run_bind_ok hname _).trans ((run_bind_ok hensure _).trans ?_)
  refine (run_bind_ok hmake _).trans ?_
  rw [run_bind, run_bind, hexecute]
  rfl

theorem runRecreate_leads (hreplies : ∀ k < 3, (w.reply k).refusal? = none)
    (image : Option String) :
    Leads (runRecreate env store false name image) (.recreate name image) name w := by
  have hran₁ := store.silent_ensureExists.ran hensure
  have hreplies₁ : ∀ k < 3, (w₁.reply k).refusal? = none := by
    intro k hk
    rw [hran₁.reply, List.length_nil, Nat.zero_add]
    exact hreplies k hk
  obtain ⟨plan, before, hplanned, hran₂, -, -, hrecreate⟩ :=
    Plan.recreate_of_obtainable ht hhome hcan hreplies₁ image env.defaultImage none
  obtain ⟨-, rest, hcommand⟩ := Plan.of_planned hplanned
  refine ⟨plan, before, _, hcommand, hran₁.trans hran₂, ?_⟩
  have hname : (require (checkName name)).run w = (.ok name, w) := by
    rw [run_require, checkName, if_pos hn]
  refine (run_bind_ok hname _).trans ((run_bind_ok hensure _).trans ?_)
  rw [run_bind, hrecreate, run_bind, run_bind]
  generalize (Tool.create plan.command).run before = x
  obtain ⟨e | u, w'⟩ := x <;> rfl

end

/-- Opening the log makes the directory for it and then the file, if it is not there; from then on
notes are printed if the invocation says so. -/
theorem exists_of_openLog (h : (openLog env i).run w = (.ok (), w₁)) : ∃ dir d d' entry,
    env.stateDir = .ok dir ∧ (DiskM.makeDirs dir 0o777 true).run w.disk = (.ok (), d) ∧
      d.append (dir.child logName) ByteArray.empty = .ok d' ∧
        w₁ = World.noted { w with disk := d', echo := i.verbose } entry := by
  obtain ⟨dir, w₂, hdir, h⟩ := exists_of_run_bind_ok h
  rw [run_require] at hdir
  obtain ⟨hstate, rfl⟩ := Prod.mk.inj hdir
  obtain ⟨_, w₃, hmake, h⟩ := exists_of_run_bind_ok h
  rw [Store.run_onDisk_eq] at hmake
  generalize hd : (DiskM.makeDirs dir 0o777 true).run w.disk = x at hmake
  obtain ⟨e | u, d⟩ := x
  · cases hmake
  obtain ⟨-, rfl⟩ := Prod.mk.inj hmake
  obtain ⟨_, w₄, happend, h⟩ := exists_of_run_bind_ok h
  rw [Store.run_onDisk_eq, DiskM.run_change] at happend
  cases hd' : d.append (dir.child logName) ByteArray.empty with
  | error e =>
    rw [hd'] at happend
    cases happend
  | ok d' =>
    rw [hd'] at happend
    obtain ⟨-, rfl⟩ := Prod.mk.inj happend
    obtain ⟨_, w₅, hecho, hlog⟩ := exists_of_run_bind_ok h
    rw [run_modify] at hecho
    obtain ⟨-, rfl⟩ := Prod.mk.inj hecho
    rw [run_log] at hlog
    obtain ⟨-, rfl⟩ := Prod.mk.inj hlog
    exact ⟨dir, d, d', _, hstate, hd, hd', rfl⟩

/-- Opening the log prints nothing. -/
theorem ran_openLog (h : (openLog env i).run w = (.ok (), w₁)) :
    Ran { w with echo := i.verbose } w₁ [] [] := by
  obtain ⟨dir, d, d', entry, -, -, -, rfl⟩ := exists_of_openLog h
  exact (ran_disk { w with echo := i.verbose } d').quiet (ran_noted _ entry)

/-- A run of the application, once the log is open and the file of grants is known. -/
theorem run_of_openLog (hparse : parse args = .invocation i) (hhelp : i.request ≠ .help)
    (hlog : (openLog env i).run w = (.ok (), w₁)) (hstore : storeOf env i = .ok store) {code : Int}
    (hrun : (tryCatch (carryOut env store i) report).run w₁ = (.ok code, w₂)) :
    (run env args).run w = (.ok (.returned code), w₂) := by
  have hfile : (require (storeOf env i)).run w₁ = (.ok store, w₁) := by rw [run_require, hstore]
  rw [run, hparse]
  simp only [if_neg hhelp]
  exact (run_bind_ok hlog _).trans ((run_bind_ok hfile _).trans (run_bind_ok hrun _))

/-- Which texts a run has printed besides notes, as a question to its events. -/
theorem printed_after {echo : Bool} {cs : List (List String × Bool)} {ts : List (Stream × String)}
    (hran : Ran { w with echo } w₁ cs ts) : ∃ es, w₁.events = w.events ++ es ∧
      (∀ text, .printed .out text ∈ es ↔ (.out, text) ∈ ts) ∧
      ((∃ title lines, .printed .err (errorBox w.errIsTerminal title lines) ∈ es) ↔
        ∃ title lines, (.err, errorBox w.errIsTerminal title lines) ∈ ts) := by
  obtain ⟨es, hevents, hmem⟩ := hran.mem_events
  refine ⟨es, hevents, fun text => hmem .out text (by simp), ?_⟩
  refine exists_congr fun title => exists_congr fun lines => hmem .err _ fun _ e he => ?_
  have hhead := head_errorBox w.errIsTerminal title lines
  rw [he] at hhead
  exact e.head_line hhead

/-- The exit code of a request to create a container or to build one anew. A name that cannot be
one is refused before anything is started. Else, if the calls up to that of the create command fail
at most for a missing program, the create command is started, and the exit code depends on nothing
but its end: zero if it ended so, its own code if that is positive, and one if it was killed or is
missing. The line of success and the box say which it was. -/
theorem exit_code_of_create (hparse : parse args = .invocation i)
    (hrequest : i.request = .create name image ∨ i.request = .recreate name image)
    (hdry : i.dryRun = false) (hlog : (openLog env i).run w = (.ok (), w₁))
    (hstore : storeOf env i = .ok store) {made : Bool} {t : String}
    (hensure : store.ensureExists.run w₁ = (.ok made, w₂)) (ht : (store.text.run w₂).1 = .ok t)
    (hhome : isContainerName name = true →
      ∃ home, Homes.home env name = .ok home ∧ Homes.Obtainable home w₂.disk)
    (hreplies : ∀ k ≤ i.request.earlier.length, (w.reply k).refusal? = none) :
    ∃ code w' es, (run env args).run w = (.ok (.returned code), w') ∧ w'.events = w.events ++ es ∧
      (isContainerName name = false → code = 1 ∧ w'.started = w.started) ∧
      (isContainerName name = true → ∃ rest r, r = w.reply i.request.earlier.length ∧
        w'.started = w.started ++ i.request.earlier ++
          [("distrobox" :: "create" :: "--name" :: name :: rest, false)] ∧
        (code = 0 ↔ ∃ out err, r = .ended 0 out err) ∧
        (∀ c out err, r = .ended c out err → c ≠ 0 → (code = c ↔ 0 < c)) ∧
        (code = 1 ↔ (∃ out err, r = .ended 1 out err) ∨
          (∃ c out err, c < 0 ∧ r = .ended c out err) ∨ r = .refused .notFound)) ∧
      (.printed .out (statusLine w.outIsTerminal .info i.request.done) ∈ es ↔ code = 0) ∧
      ((∃ title lines, .printed .err (errorBox w.errIsTerminal title lines) ∈ es) ↔
        isContainerName name = true ∧ code ≠ 0) := by
  have hhelp : i.request ≠ .help := by rcases hrequest with h | h <;> simp [h]
  have hran₁ := ran_openLog hlog
  cases hn : isContainerName name with
  | false =>
    have hname : (require (checkName name)).run w₁ = (.error (.badName name), w₁) := by
      rw [run_require, checkName, if_neg (by simp [hn])]
    have hcarry : (carryOut env store i).run w₁ = (.error (.badName name), w₁) := by
      rcases hrequest with h | h <;> rw [carryOut, h] <;> exact run_bind_error hname _
    obtain ⟨w', hreport, -, hran₂⟩ := does_report_refusal (f := .badName name) rfl w₁
    have hrun := run_of_openLog hparse hhelp hlog hstore
      ((run_tryCatch_error hcarry _).trans hreport)
    obtain ⟨es, hevents, hout, herr⟩ := printed_after (hran₁.trans hran₂)
    refine ⟨1, w', es, hrun, hevents, fun _ => ⟨rfl, ?_⟩,
      fun h => absurd h Bool.false_ne_true, ?_, ?_⟩
    · exact (hran₁.trans hran₂).started.trans (List.append_nil _)
    · rw [hout]
      simp
    · rw [herr]
      simp [errorBox_ne_statusLine]
  | true =>
    obtain ⟨home, hhome, hcan⟩ := hhome hn
    have htext := Store.textAt_of_text store w₂ ht
    have hreply (k : Nat) : w₁.reply k = w.reply k := by
      rw [hran₁.reply, List.length_nil, Nat.zero_add]
      rfl
    have hleads : Leads (carryOut env store i) i.request name w₁ := by
      rcases hrequest with h | h <;> rw [carryOut, h, hdry]
      · exact runCreate_leads hn hensure htext hhome hcan image
      · have hearlier : i.request.earlier.length = 3 := by rw [h]; rfl
        exact runRecreate_leads hn hensure htext hhome hcan
          (fun k hk => hreply k ▸ hreplies k (by omega)) image
    obtain ⟨plan, before, rest, hcommand, hran₂, hcarry⟩ := hleads
    have hlast : before.next = w.reply i.request.earlier.length := by rw [hran₂.next, hreply]
    have hstartable : before.next.refusal? = none := by
      rw [hlast]
      exact hreplies _ (Nat.le_refl _)
    obtain ⟨w', texts, hend, hran₃, htexts⟩ := ends_after_create hcommand i.request.done hstartable
    rw [show before.outIsTerminal = w.outIsTerminal from
        hran₂.outIsTerminal.trans hran₁.outIsTerminal,
      show before.errIsTerminal = w.errIsTerminal from
        hran₂.errIsTerminal.trans hran₁.errIsTerminal] at htexts
    have htry : (tryCatch (carryOut env store i) report).run w₁ =
        (.ok before.next.exitCode, w') := by
      rw [run_tryCatch, hcarry, ← run_tryCatch]
      exact hend
    have hran := hran₁.trans (hran₂.trans hran₃)
    obtain ⟨es, hevents, hout, herr⟩ := printed_after hran
    refine ⟨before.next.exitCode, w', es, run_of_openLog hparse hhelp hlog hstore htry, hevents,
      fun h => absurd h.symm Bool.false_ne_true, fun _ => ?_, ?_, ?_⟩
    · refine ⟨rest, before.next, hlast, ?_, Reply.exitCode_eq_zero_iff hstartable, ?_,
        Reply.exitCode_eq_one_iff hstartable⟩
      · rw [hran.started, hcommand, List.nil_append, ← List.append_assoc]
        rfl
      · intro c out err hc hne
        rw [hc]
        exact Reply.exitCode_eq_code_iff hne out err
    · rw [hout]
      obtain ⟨hcode, rfl⟩ | ⟨hcode, title, lines, rfl⟩ := htexts
      · simp [hcode]
      · simp [hcode, Plan.shown, statusLine_ne_header]
    · rw [herr]
      obtain ⟨hcode, rfl⟩ | ⟨hcode, title, lines, rfl⟩ := htexts
      · simp [hcode, Plan.shown]
      · refine iff_of_true ⟨title, lines, ?_⟩ ⟨rfl, hcode⟩
        simp

/-- A user of the desk, who names its file of grants, and whose container program does not do much.
There is one other user, a guest. -/
def deskUser : Environment where
  home := "/home/me"
  configFile := some "p.conf"
  users name := if name = "guest" then some "/home" else none

def deskWorld : World :=
  { disk := Store.desk
    replies := [.refused .notFound, .ended 1 "" "", .ended (-9) "" "", .ended 125 "" ""] }

theorem exit_code_of_create_desk :
    ∃ (w' : World) (rest : List String),
      (run deskUser ["recreate", "dev"]).run deskWorld = (.ok (.returned 125), w') ∧
      w'.started = [(["distrobox", "list", "--no-color"], true),
        (["distrobox", "stop", "--yes", "dev"], true),
        (["distrobox", "rm", "--force", "dev"], true),
        ("distrobox" :: "create" :: "--name" :: "dev" :: rest, false)] := by
  have hparse : parse ["recreate", "dev"] = .invocation { request := .recreate "dev" none } := by
    decide +kernel
  have hlog : (openLog deskUser { request := .recreate "dev" none }).run deskWorld =
      (.ok (), ((openLog deskUser { request := .recreate "dev" none }).run deskWorld).2) := rfl
  generalize hw₁ :
    ((openLog deskUser { request := .recreate "dev" none }).run deskWorld).2 = w₁ at hlog
  have hensure : Store.deskStore.ensureExists.run w₁ =
      (.ok false, (Store.deskStore.ensureExists.run w₁).2) := by
    rw [← hw₁]
    rfl
  have ht : (Store.deskStore.text.run (Store.deskStore.ensureExists.run w₁).2).1 =
      .ok "# mine\r\ndev:gpu:1" := by
    have hfile : (Store.deskStore.ensureExists.run w₁).2.disk.textAt Store.deskStore.path =
        .ok "# mine\r\ndev:gpu:1" := by
      rw [← hw₁]
      exact Disk.textAt_of_file (m := 0o600) rfl rfl rfl
    rw [Store.run_text, hfile]
    rfl
  have hcan : Homes.Obtainable
      ⟨.slash, ["home", "me", ".local", "share", "distrobox-secure", "homes", "dev"]⟩
      (Store.deskStore.ensureExists.run w₁).2.disk := by
    rw [← hw₁]
    exact .inr ⟨_, rfl⟩
  obtain ⟨code, w', es, hrun, -, -, hvalid, -, -⟩ := exit_code_of_create hparse (.inr rfl) rfl hlog
    rfl hensure ht (fun _ => ⟨_, rfl, hcan⟩) (by decide)
  obtain ⟨rest, r, rfl, hstarted, -, hcode, -⟩ := hvalid (by decide)
  obtain rfl : code = 125 := (hcode 125 "" "" rfl (by decide)).mpr (by decide)
  exact ⟨w', rest, hrun, hstarted⟩

end CommandLine

end BoxWarden
