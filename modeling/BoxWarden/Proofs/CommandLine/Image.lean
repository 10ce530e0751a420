import BoxWarden.Proofs.CommandLine.Create

/-!
The image of a container. A request to create one, or to build one anew, shows and starts no create
command but for one image. That image is the first of those that come into question, and it is not
empty, but for one case: an empty image that is named for a container to be built anew is taken as
it is.
-/

namespace BoxWarden

open Session

namespace CommandLine

open Terminal

variable {env : Environment} {store : Store} {name : String} {w w₁ : World} {i : Invocation}
  {args : List String}

theorem not_isHeader_statusLine (terminal : Bool) (s : Severity) (message : String) :
    ¬ IsHeader (statusLine terminal s message) := head_statusLine terminal s message

/-- The line of success is no header. -/
theorem endsQuietly_done (dryRun : Bool) (message : String) (w : World) :
    EndsQuietly (do
      unless dryRun do say .info message
      pure (0 : Int)) w := by
  cases dryRun with
  | true => exact endsQuietly_pure 0 w
  | false =>
    refine ⟨0, _, (does_say .info message w).bind fun w₁ _ _ => does_pure 0 w₁, ?_⟩
    intro text htext
    obtain ⟨-, rfl⟩ : _ ∧ text = _ := by simpa using htext
    exact not_isHeader_statusLine _ _ _

/-- The image that a request takes, where a list command ends like this. -/
def Request.image (env : Environment) (list : Reply) : Request → String
  | .create _ image => (nonEmpty? image).getD env.defaultImage
  | .recreate name image => Plan.imageFor image (Tool.listed name list) env.defaultImage
  | _ => ""

/-- A request to create a container or to build one anew. -/
def Request.Makes (name : String) : Request → Prop
  | .create n _ | .recreate n _ => n = name
  | _ => False

theorem keepsTo_carryOut (env : Environment) (store : Store) (hmakes : i.request.Makes name)
    (w : World) :
    KeepsTo (carryOut env store i) w name (i.request.image env w.next) i.dryRun := by
  cases hrequest : i.request with
  | create n image =>
    rw [hrequest] at hmakes
    obtain rfl : n = name := hmakes
    rw [carryOut, hrequest]
    refine KeepsTo.after_silent (silent_require _) fun _ w₁ _ => ?_
    refine KeepsTo.after_silent store.silent_ensureExists fun _ w₂ _ => ?_
    exact Plan.keepsTo_make_execute env store n _ none i.dryRun
      (fun _ => endsQuietly_done i.dryRun _) w₂
  | recreate n image =>
    rw [hrequest] at hmakes
    obtain rfl : n = name := hmakes
    rw [carryOut, hrequest]
    refine KeepsTo.after_silent (silent_require _) fun _ w₁ hrun₁ => ?_
    refine KeepsTo.after_silent store.silent_ensureExists fun _ w₂ hrun₂ => ?_
    have hnext : w₂.next = w.next :=
      (store.silent_ensureExists.ran hrun₂).next.trans ((silent_require _).ran hrun₁).next
    have hkeeps := Plan.keepsTo_recreate env store n image env.defaultImage none i.dryRun w₂
    rw [hnext] at hkeeps
    exact hkeeps.before fun _ => endsQuietly_done i.dryRun _
  | _ =>
    rw [hrequest] at hmakes
    exact hmakes.elim

/-- A failure is told apart from success, and not where headers are printed. -/
theorem ran_report (f : Fault) (w : World) : ∃ r w' ts, (report f).run w = (r, w') ∧
    Ran w w' [] ts ∧ (∀ text, (Stream.out, text) ∉ ts) ∧ r ≠ .ok 0 := by
  by_cases hrefusal : f.isRefusal = true
  · obtain ⟨w', hrun, -, hran⟩ := does_report_refusal hrefusal w
    exact ⟨.ok 1, w', _, hrun, hran, by simp, by simp⟩
  · by_cases htool : ∃ failure, f = .tool failure
    · obtain ⟨failure, rfl⟩ := htool
      obtain ⟨title, lines, w', hrun, -, hran⟩ := does_report_tool failure w
      refine ⟨_, w', _, hrun, hran, by simp, ?_⟩
      have hcode : failureCode failure ≠ 0 := by
        unfold failureCode
        split
        · split <;> omega
        · decide
      simpa using hcode
    · have hthrow : report f = throw f := by
        unfold report
        rw [if_neg hrefusal]
        split
        · exact absurd ⟨_, rfl⟩ htool
        · rfl
      exact ⟨.error f, w, [], by rw [hthrow]; rfl, Ran.refl w, by simp, by simp⟩

/-- However the opening of the log ends, nothing is started, and nothing printed but notes. -/
theorem exists_ran_openLog (env : Environment) (i : Invocation) (w : World) :
    ∃ r w₁ echo, (openLog env i).run w = (r, w₁) ∧ Ran { w with echo } w₁ [] [] := by
  rcases hlog : (openLog env i).run w with ⟨e | _, w₁⟩
  · refine ⟨_, w₁, w.echo, rfl, ?_⟩
    obtain hran | ⟨dir, w₂, hran₂, hlog⟩ := Silent.cases_error (silent_require _) hlog
    · exact hran
    obtain hran | ⟨_, w₃, hran₃, hlog⟩ := Silent.cases_error (silent_onDisk _) hlog
    · exact hran₂.quiet hran
    obtain hran | ⟨_, w₄, -, hlog⟩ := Silent.cases_error (silent_onDisk _) hlog
    · exact (hran₂.quiet hran₃).quiet hran
    -- what is left is the note, which can always be made
    rw [run_bind_ok (run_modify _ w₄), run_log] at hlog
    cases hlog
  · exact ⟨_, w₁, i.verbose, rfl, ran_openLog hlog⟩

/-- A failure that is reported does not look like a success. -/
theorem exists_ran_reported {m : Session Int} {image : String} {dryRun : Bool}
    (h : KeepsTo m w name image dryRun) : ∃ r w' cs ts, (tryCatch m report).run w = (r, w') ∧
      Ran w w' cs ts ∧ OnlyFor name image dryRun cs ts ∧ (r = .ok 0 → Creating dryRun cs ts) := by
  obtain ⟨r, w₁, cs, ts, hrun, hran, honly, hcreating⟩ := h
  cases r with
  | ok code => exact ⟨_, w₁, cs, ts, run_tryCatch_ok hrun report, hran, honly, hcreating 0⟩
  | error e =>
    obtain ⟨r', w₂, ts', hreport, hran', hts', hcode⟩ := ran_report e w₁
    have hlast : OnlyFor name image dryRun [] ts' :=
      onlyFor_of_none (by simp) fun text htext => absurd htext (hts' text)
    exact ⟨r', w₂, _, _, (run_tryCatch_error hrun report).trans hreport, hran.trans hran',
      honly.append hlast, fun h => absurd h hcode⟩

/-- A run of the application, for a request to create a container or to build one anew. -/
theorem exists_ran_run (hparse : parse args = .invocation i) (hmakes : i.request.Makes name)
    (w : World) : ∃ r w' echo cs ts, (run env args).run w = (r, w') ∧
      Ran { w with echo } w' cs ts ∧ OnlyFor name (i.request.image env w.next) i.dryRun cs ts ∧
        (r = .ok (.returned 0) → Creating i.dryRun cs ts) := by
  have hhelp : i.request ≠ .help := by
    intro h
    rw [h] at hmakes
    exact hmakes
  have hrun : (run env args).run w = (do
      openLog env i
      let store ← require (storeOf env i)
      return .returned (← tryCatch (carryOut env store i) report) : Session Ending).run w := by
    rw [run, hparse]
    simp only [if_neg hhelp]
  rw [hrun]
  have hnone : OnlyFor name (i.request.image env w.next) i.dryRun [] [] :=
    onlyFor_of_none (by simp) (by simp)
  obtain ⟨rlog, w₁, echo, hlog, hran₁⟩ := exists_ran_openLog env i w
  cases rlog with
  | error e => exact ⟨_, w₁, echo, [], [], run_bind_error hlog _, hran₁, hnone, fun h => by cases h⟩
  | ok u =>
    rw [run_bind_ok hlog]
    cases hstore : storeOf env i with
    | error e =>
      have hfile : (require (.error e) : Session Store).run w₁ = (.error e, w₁) := run_require _ _
      exact ⟨_, w₁, echo, [], [], run_bind_error hfile _, hran₁, hnone, fun h => by cases h⟩
    | ok store =>
      rw [run_bind_ok (run_require _ _)]
      obtain ⟨r, w₂, cs, ts, htry, hran₂, honly, hcreating⟩ :=
        exists_ran_reported (keepsTo_carryOut env store hmakes w₁)
      rw [show w₁.next = w.next from hran₁.next] at honly
      refine ⟨r.map Ending.returned, w₂, echo, cs, ts, ?_, by simpa using hran₁.trans hran₂, honly,
        ?_⟩
      · rw [run_bind, htry]
        cases r <;> rfl
      · intro h
        cases r with
        | error e => cases h
        | ok code =>
          obtain rfl : code = 0 := by simpa [Except.map] using h
          exact hcreating rfl

/-- The images that come into question for a request, in their order. -/
def Request.images (env : Environment) (list : Reply) : Request → List (Option String)
  | .create _ image => [image, env.image]
  | .recreate name image => [image, (Tool.listed name list).map ListedContainer.image, env.image]
  | _ => []

/-- The first of some images that is there and not empty, else the one that is built in. -/
def firstImage (images : List (Option String)) : String :=
  (images.filterMap nonEmpty?).headD builtinImage

theorem nonEmpty?_of_ne {s : String} (h : s ≠ "") : nonEmpty? (some s) = some s := by
  simp [nonEmpty?, Option.filter_some, h]

theorem nonEmpty?_empty : nonEmpty? (some "") = none := by
  simp [nonEmpty?, Option.filter_some]

theorem firstImage_nil : firstImage [] = builtinImage := rfl

theorem firstImage_cons (image : Option String) (images : List (Option String)) :
    firstImage (image :: images) = (nonEmpty? image).getD (firstImage images) := by
  cases h : nonEmpty? image <;> simp [firstImage, h]

theorem firstImage_ne_empty (images : List (Option String)) : firstImage images ≠ "" := by
  induction images with
  | nil => decide
  | cons image images ih =>
    rw [firstImage_cons]
    cases h : nonEmpty? image with
    | none => exact ih
    | some s =>
      have hs := (Option.filter_eq_some_iff.mp h).2
      simpa using hs

/-- The image that a request takes is the first that comes into question, unless an empty one is
named for a container to be built anew. -/
theorem Request.image_eq (env : Environment) (list : Reply) {r : Request} (hmakes : r.Makes name) :
    r.image env list =
      if r = .recreate name (some "") then "" else firstImage (r.images env list) := by
  cases r with
  | create n asked =>
    rw [if_neg (by simp), Request.images, firstImage_cons, firstImage_cons, firstImage_nil,
      Request.image, Environment.defaultImage]
  | recreate n asked =>
    obtain rfl : n = name := hmakes
    cases asked with
    | some s =>
      by_cases hs : s = ""
      · rw [hs, if_pos rfl]
        rfl
      · rw [if_neg (by simpa using hs), Request.images, firstImage_cons, nonEmpty?_of_ne hs]
        rfl
    | none =>
      rw [if_neg (by simp), Request.images, firstImage_cons, firstImage_cons, firstImage_cons,
        firstImage_nil, ← Environment.defaultImage, Request.image]
      cases Tool.listed n list with
      | none => rfl
      | some c =>
        by_cases hc : c.image = ""
        · rw [Plan.imageFor, if_pos hc, Option.map_some, hc, nonEmpty?_empty]
          rfl
        · rw [Plan.imageFor, if_neg hc, Option.map_some, nonEmpty?_of_ne hc]
          rfl
  | _ => exact hmakes.elim

/-- The commands and the texts of a run are among its events, and no others. -/
theorem exists_events_of_ran {echo : Bool} {cs : List (List String × Bool)}
    {ts : List (Stream × String)} (h : Ran { w with echo } w₁ cs ts) :
    ∃ es, w₁.events = w.events ++ es ∧
      (∀ command captured, .started command captured ∈ es ↔ (command, captured) ∈ cs) ∧
      ∀ text, .printed .out text ∈ es ↔ (.out, text) ∈ ts := by
  obtain ⟨ds, rfl, rfl, hevents⟩ := h.deeds
  refine ⟨_, hevents, fun command captured => ?_, fun text => mem_texts_of_deeds (by simp) ds⟩
  rw [← commands_of_deeds echo, List.mem_filterMap]
  constructor
  · exact fun hmem => ⟨_, hmem, rfl⟩
  · rintro ⟨e, hmem, he⟩
    cases e with
    | started command' captured' =>
      obtain ⟨rfl, rfl⟩ := Prod.mk.inj (Option.some.inj he)
      exact hmem
    | _ => cases he

theorem Request.makes_of {r : Request} {asked : Option String}
    (h : r = .create name asked ∨ r = .recreate name asked) : r.Makes name := by
  obtain rfl | rfl := h <;> rfl

/-- A request to create a container, or to build one anew, starts no create command and shows none
but for one image: the one that is named, else the one that is listed of a container to be built
anew, else the one of the environment, else the one that is built in, where an empty one does not
count. But if an empty image is named for a container to be built anew, the command is for that one.
A run that returns zero has shown its command and, unless it is dry, has started it. -/
theorem image_of_create (hparse : parse args = .invocation i) {asked : Option String}
    (hrequest : i.request = .create name asked ∨ i.request = .recreate name asked) (w : World) :
    let rule := firstImage (i.request.images env w.next)
    let taken := if i.request = .recreate name (some "") then "" else rule
    rule ≠ "" ∧ ∃ r w' es, (run env args).run w = (r, w') ∧ w'.events = w.events ++ es ∧
      (∀ command captured, .started command captured ∈ es → command[1]? = some "create" →
        ∃ more, command = ["distrobox", "create", "--name", name, "--image", taken] ++ more) ∧
      (∀ text, .printed .out text ∈ es → text.toList.head? = some '=' → ∃ more summary,
        text = header (["distrobox", "create", "--name", name, "--image", taken] ++ more) summary
          i.dryRun) ∧
      (r = .ok (.returned 0) →
        (∃ text, .printed .out text ∈ es ∧ text.toList.head? = some '=') ∧
          (i.dryRun = false → ∃ command captured, .started command captured ∈ es ∧
            command[1]? = some "create")) := by
  intro rule taken
  have hmakes := Request.makes_of hrequest
  obtain ⟨r, w', echo, cs, ts, hrun, hran, honly, hcreating⟩ := exists_ran_run hparse hmakes w
  obtain ⟨es, hevents, hstarted, hprinted⟩ := exists_events_of_ran hran
  rw [Request.image_eq env w.next hmakes] at honly
  refine ⟨firstImage_ne_empty _, r, w', es, hrun, hevents, ?_, ?_, fun hr => ?_⟩
  · intro command captured hmem hcreates
    exact honly.commands _ ((hstarted command captured).mp hmem) hcreates
  · intro text hmem hheader
    exact honly.texts text ((hprinted text).mp hmem) hheader
  · obtain ⟨⟨text, htext, hheader⟩, hcommand⟩ := hcreating hr
    refine ⟨⟨text, (hprinted text).mpr htext, hheader⟩, fun hdry => ?_⟩
    obtain ⟨⟨command, captured⟩, hmem, hcreates⟩ := hcommand hdry
    exact ⟨command, captured, (hstarted command captured).mpr hmem, hcreates⟩

/-- A container that is listed keeps its image, whatever the environment names. -/
theorem image_of_create_desk :
    let env : Environment := { deskUser with image := some "ubuntu" }
    let w : World :=
      { disk := Store.desk
        replies := [.ended 0 "ID | NAME | STATUS | IMAGE\n1 | dev | Up | fedora:41\n" ""] }
    parse ["recreate", "dev"] = .invocation { request := .recreate "dev" none } ∧
      ∃ r w' es, (run env ["recreate", "dev"]).run w = (r, w') ∧ w'.events = w.events ++ es ∧
        ∀ command captured, .started command captured ∈ es → command[1]? = some "create" →
          ∃ more,
            command = ["distrobox", "create", "--name", "dev", "--image", "fedora:41"] ++ more := by
  intro env w
  have hparse : parse ["recreate", "dev"] = .invocation { request := .recreate "dev" none } := by
    decide +kernel
  have hfirst : firstImage (Request.images env w.next (.recreate "dev" none)) = "fedora:41" := by
    decide +kernel
  obtain ⟨-, r, w', es, hrun, hevents, hcommands, -, -⟩ :=
    @image_of_create env "dev" _ _ hparse none (.inr rfl) w
  rw [if_neg (by simp), hfirst] at hcommands
  exact ⟨hparse, r, w', es, hrun, hevents, hcommands⟩

/-- At the desk, where all commands end well, the container is built anew with the image that is
named. -/
theorem started_desk : ∃ r w' command captured,
    (run deskUser ["recreate", "dev", ""]).run { disk := Store.desk } = (r, w') ∧
      (command, captured) ∈ w'.started ∧ Creates command := by
  have hparse : parse ["recreate", "dev", ""] =
      .invocation { request := .recreate "dev" (some "") } := by
    decide +kernel
  have hlog : (openLog deskUser { request := .recreate "dev" (some "") }).run
      { disk := Store.desk } =
      (.ok (), ((openLog deskUser { request := .recreate "dev" (some "") }).run
        { disk := Store.desk }).2) := rfl
  generalize hw₁ : ((openLog deskUser { request := .recreate "dev" (some "") }).run
    { disk := Store.desk }).2 = w₁ at hlog
  have hensure : Store.deskStore.ensureExists.run w₁ =
      (.ok false, (Store.deskStore.ensureExists.run w₁).2) := by
    rw [← hw₁]
    rfl
  have htext : (Store.deskStore.ensureExists.run w₁).2.disk.textAt Store.deskStore.path =
      .ok "# mine\r\ndev:gpu:1" := by
    rw [← hw₁]
    exact Disk.textAt_of_file (m := 0o600) rfl rfl rfl
  have hcan : Homes.Obtainable
      ⟨.slash, ["home", "me", ".local", "share", "distrobox-secure", "homes", "dev"]⟩
      (Store.deskStore.ensureExists.run w₁).2.disk := by
    rw [← hw₁]
    exact .inr ⟨_, rfl⟩
  have hreply (k : Nat) : (w₁.reply k).refusal? = none := by
    rw [(ran_openLog hlog).reply]
    rfl
  obtain ⟨plan, before, rest, hcommand, hran, hcarry⟩ :=
    @runRecreate_leads deskUser "dev" _ _ _ _ _ _ (by decide) hensure htext rfl hcan
      (fun k _ => hreply k) (some "")
  have hlast : before.next.refusal? = none := by
    rw [hran.next]
    exact hreply _
  obtain ⟨w', texts, hend, hran', -⟩ :=
    ends_after_create hcommand (Request.done (.recreate "dev" (some ""))) hlast
  have htry : (tryCatch (carryOut deskUser Store.deskStore { request := .recreate "dev" (some "") })
      report).run w₁ = (.ok before.next.exitCode, w') := by
    rw [carryOut, run_tryCatch, hcarry, ← run_tryCatch]
    exact hend
  refine ⟨_, w', plan.command, false, run_of_openLog hparse (by simp) hlog rfl htry, ?_, ?_⟩
  · rw [hran'.started]
    exact List.mem_append_right _ (List.mem_singleton_self _)
  · rw [hcommand]
    rfl

/-- An empty image that is named for a container to be built anew is not passed over. -/
theorem not_image_of_create :
    ¬ ∀ (env : Environment) (args : List String) (i : Invocation) (name : String)
      (asked : Option String) (w : World), parse args = .invocation i →
        i.request = .create name asked ∨ i.request = .recreate name asked →
          isContainerName name = true →
            ∃ r w' es, (run env args).run w = (r, w') ∧ w'.events = w.events ++ es ∧
              ∀ command captured, .started command captured ∈ es → command[1]? = some "create" →
                ∃ more, command = ["distrobox", "create", "--name", name, "--image",
                  firstImage (i.request.images env w.next)] ++ more := by
  intro h
  have hparse : parse ["recreate", "dev", ""] =
      .invocation { request := .recreate "dev" (some "") } := by
    decide +kernel
  obtain ⟨r, w', command, captured, hrun, hstarted, hcreates⟩ := started_desk
  obtain ⟨r₁, w₁, echo, cs, ts, hrun₁, hran, honly, -⟩ :=
    @exists_ran_run deskUser "dev" _ _ hparse rfl { disk := Store.desk }
  obtain ⟨-, rfl⟩ := Prod.mk.inj (hrun.symm.trans hrun₁)
  have hmem : (command, captured) ∈ cs := by
    rw [hran.started] at hstarted
    exact hstarted
  obtain ⟨more, hempty⟩ := honly.commands _ hmem hcreates
  obtain ⟨r₂, w₂, es, hrun₂, hevents, hall⟩ :=
    h deskUser _ _ "dev" (some "") { disk := Store.desk } hparse (.inr rfl) (by decide)
  obtain ⟨-, rfl⟩ := Prod.mk.inj (hrun.symm.trans hrun₂)
  obtain ⟨es', hevents', hcommands, -⟩ := exists_events_of_ran hran
  obtain rfl : es' = es := List.append_cancel_left (hevents'.symm.trans hevents)
  obtain ⟨more', hrule⟩ := hall command captured ((hcommands command captured).mpr hmem) hcreates
  have himage : "" = firstImage (Request.images deskUser (World.next { disk := Store.desk })
      (.recreate "dev" (some ""))) := by
    have hsame := hempty.symm.trans hrule
    simp only [Plan.opening, List.cons_append, List.cons.injEq] at hsame
    exact hsame.2.2.2.2.2.1
  exact firstImage_ne_empty _ himage.symm

end CommandLine

end BoxWarden
