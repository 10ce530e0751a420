import BoxWarden.Proofs.CommandLine.Arguments
import BoxWarden.Proofs.CommandLine.ExitCode
import BoxWarden.Proofs.Store.Foreign
import BoxWarden.Proofs.Store.Torn
import BoxWarden.Proofs.UserHome

/-!
The check of the host path that a grant exposes. It comes after the grant is recorded, and whatever
it finds is one line more on the terminal. For some paths it has no answer: those from the home of a
user who is not known, and those to which the way is closed or too long. Then the grant stands, but
the run ends in the failure of the check.
-/

namespace BoxWarden

open Session

namespace Disk

variable {d : Disk} {p : Path} {e : DiskError}

/-- What can be wrong with a way. -/
theorem walk_error {here : Loc} {parts : List String} (h : d.walk here parts = .error e) :
    e = .notFound ∨ e = .notDirectory ∨ e = .denied ∨ e = .nameTooLong := by
  fun_induction Disk.walk d here parts with
  | case1 => cases h
  | _ => simp_all

theorem locate_error (h : d.locate p = .error e) :
    e = .nulInPath ∨ e = .notFound ∨ e = .notDirectory ∨ e = .denied ∨ e = .nameTooLong := by
  unfold locate at h
  split at h
  · cases h
    exact .inl rfl
  · split at h
    · cases h
      simp
    · exact .inr (walk_error h)

theorem stat_error (h : d.stat p = .error e) :
    e = .nulInPath ∨ e = .notFound ∨ e = .notDirectory ∨ e = .denied ∨ e = .nameTooLong := by
  cases hl : d.locate p with
  | error e' =>
    rw [stat_of_locate_error hl] at h
    cases h
    exact locate_error hl
  | ok l =>
    cases hg : d.get? l with
    | none =>
      rw [stat_of_missing hl hg] at h
      cases h
      simp
    | some n =>
      rw [stat_of_locate hl hg] at h
      cases h

/-- A question whether something is there has no answer where the way is closed or too long. -/
theorem holds_eq_error_iff :
    d.holds p = .error e ↔ d.stat p = .error e ∧ (e = .denied ∨ e = .nameTooLong) := by
  unfold holds
  cases h : d.stat p with
  | ok n => simp
  | error e' =>
    obtain rfl | rfl | rfl | rfl | rfl := stat_error h <;> simp <;> rintro rfl <;> simp

/-- What is added to the end of a file goes to the place of its path, where no directory stands. -/
theorem put_of_append {d' : Disk} {bytes : ByteArray} (h : d.append p bytes = .ok d') :
    d.locate p = .ok (d.place p) ∧ (∀ m, d.get? (d.place p) ≠ some (.dir m)) ∧
      ∃ m c, d' = d.put (d.place p) (.file m c) := by
  cases hl : d.locate p with
  | error e =>
    rw [Disk.append, hl] at h
    cases h
  | ok l =>
    obtain rfl := place_of_locate hl
    refine ⟨rfl, ?_⟩
    cases hg : d.get? (d.place p) with
    | none =>
      rw [append_of_missing hl hg] at h
      cases hcheck : d.checkDirOf (d.place p) with
      | error e =>
        rw [hcheck] at h
        cases h
      | ok u =>
        rw [hcheck] at h
        exact ⟨by simp, _, _, (Except.ok.inj h).symm⟩
    | some n =>
      cases n with
      | dir m =>
        simp only [Disk.append, hl, hg, bind, Except.bind] at h
        cases h
      | file m c =>
        rw [append_of_file hl hg] at h
        split at h
        · exact ⟨by simp, _, _, (Except.ok.inj h).symm⟩
        · cases h

/-- Adding to the end of a file leaves a tree of files. -/
theorem WellFormed.append {d' : Disk} (hd : d.WellFormed) {bytes : ByteArray}
    (h : d.append p bytes = .ok d') : d'.WellFormed := by
  obtain ⟨hl, hdir, m, c, rfl⟩ := put_of_append h
  exact Store.wellFormed_put_file hd hl hdir m c

end Disk

namespace CommandLine

open Terminal

variable {env : Environment} {i : Invocation} {w w₁ w₂ w₃ : World} {d : Disk} {path : String}

/-- What the check of a host path comes to: it fails, or it names a problem or none. -/
def pathVerdict (env : Environment) (d : Disk) (path : String) : Except Fault (Option String) :=
  match env.expand (Path.parse path) with
  | .error f => .error f
  | .ok p =>
    if p.isAbsolute then
      match d.holds p with
      | .error e => .error (.disk e)
      | .ok there => .ok (if there then none else some (path ++ " does not exist on the host"))
    else .ok (some (path ++ " is not an absolute path"))

theorem run_pathProblem : (pathProblem env path).run w = (pathVerdict env w.disk path, w) := by
  rw [pathProblem, run_bind, run_require, pathVerdict]
  cases env.expand (Path.parse path) with
  | error e => rfl
  | ok p =>
    cases habs : p.isAbsolute with
    | false =>
      simp only [habs]
      rfl
    | true =>
      simp only [habs, Bool.not_true, Bool.false_eq_true, if_true, if_false, run_bind, run_ask]
      cases w.disk.holds p with
      | error e => rfl
      | ok there => cases there <;> rfl

/-- A host path for which the check has no answer: it starts from a home that is not known, or the
way to it is closed or too long. -/
def Unanswerable (env : Environment) (d : Disk) (path : String) : Prop :=
  (Path.parse path).FromUnknownHome env.users ∨
    ∃ p, env.expand (Path.parse path) = .ok p ∧ p.isAbsolute = true ∧
      (d.stat p = .error .denied ∨ d.stat p = .error .nameTooLong)

/-- The check answers for every other path. -/
theorem pathVerdict_eq_error_iff {h : String} (hhome : Path.homeText env.home = .ok h) :
    (∃ f, pathVerdict env d path = .error f) ↔ Unanswerable env d path := by
  have hother : (∃ e, (Path.parse path).expandHome env.home env.users = .error e) ↔
      (Path.parse path).FromUnknownHome env.users := Path.expandHome_eq_error_iff hhome
  unfold pathVerdict Unanswerable
  rw [← hother]
  cases hexpand : (Path.parse path).expandHome env.home env.users with
  | error e => simp [Environment.expand_of_error hexpand]
  | ok p =>
    simp only [Environment.expand_of_ok hexpand]
    cases habs : p.isAbsolute with
    | false => simp [habs]
    | true =>
      cases hholds : d.holds p with
      | error e =>
        obtain ⟨hstat, he⟩ := Disk.holds_eq_error_iff.mp hholds
        refine iff_of_true ⟨_, rfl⟩ (.inr ⟨p, rfl, habs, ?_⟩)
        rcases he with rfl | rfl
        · exact .inl hstat
        · exact .inr hstat
      | ok there =>
        have hanswer (e : DiskError) (he : e = .denied ∨ e = .nameTooLong) :
            d.stat p ≠ .error e := by
          intro hstat
          rw [Disk.holds_eq_error_iff.mpr ⟨hstat, he⟩] at hholds
          cases hholds
        simp [hanswer .denied, hanswer .nameTooLong]

/-- What becomes of a grant whose host path is checked; most kinds expose none. -/
def grantVerdict (env : Environment) (d : Disk) (r : Record) : Except Fault (Option String) :=
  match r.kind.hostPath? r.value with
  | some path => pathVerdict env d path
  | none => .ok none

theorem hostPath?_ne_empty {k : Kind} {value : String} (h : k.hostPath? value = some path) :
    path ≠ "" := by
  rintro rfl
  cases k with
  | homeFolder => simp [Kind.hostPath?, Kind.hostPath?.nonEmptyText?] at h
  | mount =>
    obtain ⟨m, hm, hsource⟩ := Option.map_eq_some_iff.mp h
    unfold splitMount? at hm
    cases hcut : Text.cut? ':' value.toList with
    | none => simp [hcut] at hm
    | some x =>
      obtain ⟨source, target⟩ := x
      simp only [hcut, Option.ite_none_left_eq_some, Option.some.injEq] at hm
      obtain ⟨hne, rfl⟩ := hm
      exact hne (.inl (by simpa using hsource))
  | _ => cases h

/-- What is printed once a grant is recorded: the line that tells of it, a line about a problem with
its host path, and the hint. -/
def told (w : World) (r : Record) : Stream × String := (.out, statusLine w.outIsTerminal .info
  ("Granted " ++ r.kind.name ++ "=" ++ r.value ++ " to " ++ r.container))

def warned (w : World) (problem : Option String) : List (Stream × String) :=
  problem.toList.map fun p =>
    (.err, statusLine w.errIsTerminal .warn (p ++ " (grant recorded anyway)"))

def hinted (w : World) (r : Record) : Stream × String :=
  (.out, statusLine w.outIsTerminal .info (applyHint r.container))

/-- The check of what a grant exposes. -/
def check (env : Environment) (r : Record) : Session (Option String) :=
  match r.kind.hostPath? r.value with
  | some path => pathProblem env path
  | none => pure none

/-- The last lines of a grant. -/
def finish (r : Record) (problem : Option String) : Session Int := do
  if let some p := problem then say .warn (p ++ " (grant recorded anyway)")
  say .info (applyHint r.container)
  pure 0

/-- All that follows once a grant is recorded. -/
def tell (env : Environment) (r : Record) : Session Int := do
  say .info ("Granted " ++ r.kind.name ++ "=" ++ r.value ++ " to " ++ r.container)
  let problem ← check env r
  finish r problem

theorem run_runGrant {store : Store} {name kind value : String} {made : Bool} {r : Record}
    (hensure : store.ensureExists.run w₁ = (.ok made, w₂))
    (hgrant : (store.grant name kind value).run w₂ = (.ok r, w₃)) :
    (runGrant env store name (some kind) (some value)).run w₁ = (tell env r).run w₃ := by
  refine (run_bind_ok hensure _).trans ((run_bind_ok hgrant _).trans ?_)
  cases h : r.kind.hostPath? r.value with
  | none =>
    simp only [tell, check, h]
    rfl
  | some path =>
    simp only [tell, check, h, if_neg (hostPath?_ne_empty h)]
    rfl

/-- The check changes nothing. -/
theorem does_check (env : Environment) (r : Record) (w : World) :
    Does (check env r) w (grantVerdict env w.disk r) [] [] := by
  unfold check grantVerdict
  cases r.kind.hostPath? r.value with
  | none => exact does_pure none w
  | some path => exact ⟨w, run_pathProblem, rfl, Ran.refl w⟩

theorem does_finish (r : Record) (problem : Option String) (w : World) :
    Does (finish r problem) w (.ok 0) [] (warned w problem ++ [hinted w r]) := by
  cases problem with
  | none => exact (does_say .info _ w).bind fun w₁ _ _ => does_pure 0 w₁
  | some p =>
    refine (does_say .warn _ w).bind fun w₁ _ hran => ?_
    have hhint : hinted w r = hinted w₁ r := by rw [hinted, hinted, hran.outIsTerminal]
    rw [hhint]
    exact (does_say .info _ w₁).bind fun w₂ _ _ => does_pure 0 w₂

/-- After the line that tells of the grant comes what the check makes of it. -/
theorem does_tell (env : Environment) (r : Record) (w : World) :
    Does (tell env r) w ((grantVerdict env w.disk r).map fun _ => 0) [] (told w r ::
      (match grantVerdict env w.disk r with
        | .ok problem => warned w problem ++ [hinted w r]
        | .error _ => [])) := by
  refine (does_say .info _ w).bind fun w₁ hdisk hran => ?_
  have hcheck := does_check env r w₁
  rw [hdisk] at hcheck
  cases h : grantVerdict env w.disk r with
  | error f =>
    rw [h] at hcheck
    exact hcheck.bind_error _
  | ok problem =>
    rw [h] at hcheck
    refine hcheck.bind fun w₂ _ hran₂ => ?_
    have hterm := hran.trans hran₂
    have hlines : warned w₂ problem ++ [hinted w₂ r] = warned w problem ++ [hinted w r] := by
      rw [warned, warned, hinted, hinted, hterm.outIsTerminal, hterm.errIsTerminal]
    have hfinish := does_finish r problem w₂
    rw [hlines] at hfinish
    exact hfinish

/-- The home directory is known to whoever can open the log. -/
theorem home_of_openLog (h : (openLog env i).run w = (.ok (), w₁)) :
    ∃ home, Path.homeText env.home = .ok home := by
  obtain ⟨dir, -, -, -, hdir, -⟩ := exists_of_openLog h
  have hparse : Path.parse "~" = ⟨.here, ["~"]⟩ := by decide
  cases hhome : Path.homeText env.home with
  | ok home => exact ⟨home, rfl⟩
  | error e =>
    have hexpand : env.expand (Path.parse "~") = .error (.home e) := by
      apply Environment.expand_of_error
      simp [hparse, Path.expandHome, Path.homeOf?, hhome, Except.map]
    simp [Environment.stateDir, Environment.baseDir, hexpand, bind, Except.bind] at hdir

theorem wellFormed_openLog (hd : w.disk.WellFormed) (h : (openLog env i).run w = (.ok (), w₁)) :
    w₁.disk.WellFormed := by
  obtain ⟨dir, d, d', entry, -, hmake, happend, rfl⟩ := exists_of_openLog h
  have hmade := DiskM.wellFormed_makeDirs dir 0o777 true hd
  rw [hmake] at hmade
  rw [World.disk_noted]
  exact hmade.append happend

/-- What goes wrong in the check is no refusal and no failed command, so it ends the run. -/
theorem report_of_verdict {f : Fault} {r : Record} (h : grantVerdict env d r = .error f) :
    report f = throw f := by
  unfold grantVerdict at h
  cases hpath : r.kind.hostPath? r.value with
  | none =>
    rw [hpath] at h
    cases h
  | some path =>
    simp only [hpath, pathVerdict] at h
    cases hexpand : (Path.parse path).expandHome env.home env.users with
    | error e =>
      rw [Environment.expand_of_error hexpand] at h
      cases h
      rfl
    | ok p =>
      simp only [Environment.expand_of_ok hexpand] at h
      split at h
      · cases hholds : d.holds p with
        | error e =>
          rw [hholds] at h
          cases h
          rfl
        | ok there =>
          rw [hholds] at h
          cases h
      · cases h

/-- The code of a grant that is recorded, or what went wrong in its check. -/
def grantCode (env : Environment) (d : Disk) (r : Record) : Except Fault Int :=
  (grantVerdict env d r).map fun _ => 0

theorem report_of_grantCode {f : Fault} {r : Record} (h : grantCode env d r = .error f) :
    report f = throw f := by
  unfold grantCode at h
  cases hverdict : grantVerdict env d r with
  | error f' =>
    rw [hverdict] at h
    obtain rfl := Except.error.inj h
    exact report_of_verdict hverdict
  | ok problem =>
    rw [hverdict] at h
    cases h

/-- A grant whose host path the check has no answer for. -/
def LeavesOpen (env : Environment) (d : Disk) (r : Record) : Prop :=
  ∃ path, r.kind.hostPath? r.value = some path ∧ Unanswerable env d path

theorem grantVerdict_eq_error_iff {home : String} (hhome : Path.homeText env.home = .ok home)
    {r : Record} : (∃ f, grantVerdict env d r = .error f) ↔ LeavesOpen env d r := by
  unfold grantVerdict LeavesOpen
  cases r.kind.hostPath? r.value with
  | none => simp
  | some path => simp [pathVerdict_eq_error_iff hhome]

variable {settings : List Setting} {name kind value : String} {store : Store} {made : Bool}
  {r : Record}

theorem isPlain_of_isContainerName (h : isContainerName name = true) : IsPlain name := by
  obtain ⟨c, cs, hchars, hc, -⟩ := Record.exists_cons_of_isContainerName h
  intro hhead
  rw [hchars, List.head?_cons, Option.some.injEq] at hhead
  rw [hhead] at hc
  cases hc

theorem isPlain_kindName (k : Kind) : IsPlain k.name := by
  cases k with
  | unshare n => cases n <;> decide
  | _ => decide

/-- A failure that is not reported ends a run. -/
theorem run_of_openLog_error {args : List String} {f : Fault} (hparse : parse args = .invocation i)
    (hhelp : i.request ≠ .help) (hlog : (openLog env i).run w = (.ok (), w₁))
    (hstore : storeOf env i = .ok store) (hreport : report f = throw f)
    (hrun : (carryOut env store i).run w₁ = (.error f, w₂)) :
    (run env args).run w = (.error f, w₂) := by
  have hfile : (require (storeOf env i)).run w₁ = (.ok store, w₁) := by rw [run_require, hstore]
  have htry : (tryCatch (carryOut env store i) report).run w₁ = (.error f, w₂) := by
    rw [run_tryCatch_error hrun, hreport]
    rfl
  rw [run, hparse]
  simp only [if_neg hhelp]
  exact (run_bind_ok hlog _).trans ((run_bind_ok hfile _).trans (run_bind_error htry _))

/-- A run ends as its request does, if what goes wrong with that is not reported. -/
theorem run_of_carried {args : List String} {r : Except Fault Int}
    (hparse : parse args = .invocation i) (hhelp : i.request ≠ .help)
    (hlog : (openLog env i).run w = (.ok (), w₁)) (hstore : storeOf env i = .ok store)
    (hreport : ∀ f, r = .error f → report f = throw f)
    (hcarry : (carryOut env store i).run w₁ = (r, w₂)) :
    (run env args).run w = (r.map .returned, w₂) := by
  cases r with
  | error f => exact run_of_openLog_error hparse hhelp hlog hstore (hreport f rfl) hcarry
  | ok code => exact run_of_openLog hparse hhelp hlog hstore (run_tryCatch_ok hcarry report)

/-- The command line of a grant. -/
def grantWords (settings : List Setting) (name kind value : String) : List String :=
  settings.flatMap Setting.words ++ ["grant", name, kind, value]

/-- What the command line of a grant asks for. -/
def grantInvocation (settings : List Setting) (name kind value : String) : Invocation :=
  { settings.foldl Setting.set {} with request := .grant name (some kind) (some value) }

/-- The words of a grant that is accepted ask for it, if its value is a plain word. -/
theorem parse_grantWords (hfits : ∀ s ∈ settings, s.Fits) (hkey : isContainerName name = true)
    (k : Kind) (hvalue : IsPlain value) :
    parse (grantWords settings name k.name value) =
      .invocation (grantInvocation settings name k.name value) := by
  have hname := isPlain_of_isContainerName hkey
  have hkind := isPlain_kindName k
  exact parse_settings (c := .grant) hfits (by simp [hname, hkind, hvalue])
    (read_grant hname hkind hvalue)

/-- The command line of a grant that is recorded ends as the check of its host path does. -/
theorem run_grantWords (hfits : ∀ s ∈ settings, s.Fits) (hvalue : IsPlain value)
    (hlog : (openLog env (grantInvocation settings name kind value)).run w = (.ok (), w₁))
    (hstore : storeOf env (grantInvocation settings name kind value) = .ok store)
    (hensure : store.ensureExists.run w₁ = (.ok made, w₂))
    (hgrant : (store.grant name kind value).run w₂ = (.ok r, w₃)) :
    ∃ w', w'.disk = w₃.disk ∧
      (run env (grantWords settings name kind value)).run w =
        ((grantVerdict env w₃.disk r).map fun _ => .returned 0, w') ∧
      Ran { w with echo := (grantInvocation settings name kind value).verbose } w' []
        (told w r :: match grantVerdict env w₃.disk r with
          | .ok problem => warned w problem ++ [hinted w r]
          | .error _ => []) := by
  obtain ⟨rfl, rfl, rfl, hkey, -⟩ :=
    Store.grantOf_eq_ok_iff.mp (store.grantOf_of_grant w₂ hgrant)
  have hparse := parse_grantWords hfits hkey r.kind hvalue
  have hran := ((ran_openLog hlog).quiet (store.silent_ensureExists.ran hensure)).quiet
    ((store.silent_grant r.container r.kind.name r.value).ran hgrant)
  obtain ⟨w', htell, hdisk, hran'⟩ := does_tell env r w₃
  have hcarry : (carryOut env store (grantInvocation settings r.container r.kind.name r.value)).run
      w₁ = _ := (run_runGrant hensure hgrant).trans htell
  have htold : told w₃ r = told w r := by rw [told, told, hran.outIsTerminal]
  have hhinted : hinted w₃ r = hinted w r := by rw [hinted, hinted, hran.outIsTerminal]
  have hwarned (problem : Option String) : warned w₃ problem = warned w problem := by
    rw [warned, warned, hran.errIsTerminal]
  have hall := hran.trans hran'
  simp only [htold, hhinted, hwarned, List.nil_append] at hall
  refine ⟨w', hdisk, ?_, hall⟩
  have hrun := run_of_carried hparse (by simp [grantInvocation]) hlog hstore
    (fun _ => report_of_grantCode) hcarry
  rw [hrun, grantCode]
  cases grantVerdict env w₃.disk r <;> rfl

/-- A grant is on record before its host path is checked, and the check takes nothing back. If it
has an answer, the run ends well: a line tells of the grant, a problem with the path is one line
more, and the hint comes last. But there are paths that it has no answer for; then the grant is on
record all the same, but the run ends in a failure, without the hint. -/
theorem grant_outlives_check (hfits : ∀ s ∈ settings, s.Fits) (hvalue : IsPlain value)
    (hd : w.disk.WellFormed)
    (hlog : (openLog env (grantInvocation settings name kind value)).run w = (.ok (), w₁))
    (hstore : storeOf env (grantInvocation settings name kind value) = .ok store)
    (hensure : store.ensureExists.run w₁ = (.ok made, w₂))
    (hgrant : (store.grant name kind value).run w₂ = (.ok r, w₃)) :
    ∃ w' texts, w'.disk = w₃.disk ∧
      Ran { w with echo := (grantInvocation settings name kind value).verbose } w' [] texts ∧
      r.container = name ∧ r.kind.name = kind ∧ r.value = value ∧
      (∀ t, w₂.disk.readText store.path = .ok t → ((store.list name).run w').1 =
        .ok ((Store.grantsIn t).filter (·.container = name) ++ [r])) ∧
      (¬ LeavesOpen env w₃.disk r →
        (run env (grantWords settings name kind value)).run w = (.ok (.returned 0), w') ∧
        ∃ problem, grantVerdict env w₃.disk r = .ok problem ∧
          texts = told w r :: (warned w problem ++ [hinted w r])) ∧
      (LeavesOpen env w₃.disk r →
        (∃ f, (run env (grantWords settings name kind value)).run w = (.error f, w')) ∧
          texts = [told w r]) := by
  obtain ⟨w', hdisk, hrun, hran⟩ := run_grantWords hfits hvalue hlog hstore hensure hgrant
  obtain ⟨rfl, rfl, rfl, hkey, hline⟩ :=
    Store.grantOf_eq_ok_iff.mp (store.grantOf_of_grant w₂ hgrant)
  obtain ⟨home, hhome⟩ := home_of_openLog hlog
  rw [← grantVerdict_eq_error_iff hhome]
  refine ⟨w', _, hdisk, hran, rfl, rfl, rfl, fun t ht => ?_, fun hopen => ?_, ?_⟩
  · have hd₂ : w₂.disk.WellFormed := by
      have hdid := (Store.did_ensure (s := store) (wellFormed_openLog hd hlog)).wellFormed
      rwa [Store.perform, hensure] at hdid
    obtain ⟨m, hbefore⟩ := Store.stands_of_grant hd₂ ht hgrant
    have hafter := Store.eq_of_grant hbefore hgrant
    rw [← Store.toUTF8_added] at hafter
    have htext : w'.disk.textAt store.path = .ok (Store.added t r.line) := by
      rw [hdisk, hafter.text]
    rw [store.list_of_textAt w' htext, Store.grantsIn_added t hkey hline]
    simp
  · cases hverdict : grantVerdict env w₃.disk r with
    | error f => exact absurd ⟨f, hverdict⟩ hopen
    | ok problem =>
      rw [hverdict] at hrun
      exact ⟨hrun, problem, rfl, rfl⟩
  · rintro ⟨f, hverdict⟩
    rw [hverdict] at hrun
    rw [hverdict]
    exact ⟨⟨f, hrun⟩, rfl⟩

/-- The tree of the desk once the log is open. -/
def loggedDesk : Disk := ((openLog deskUser {}).run { disk := Store.desk }).2.disk

/-- A grant at the desk, step by step. -/
theorem grant_deskUser (kind value : String) (hr : Store.grantOf "dev" kind value = .ok r) :
    ∃ w₁ w₂ w₃, (openLog deskUser (grantInvocation [] "dev" kind value)).run
        { disk := Store.desk } = (.ok (), w₁) ∧
      Store.deskStore.ensureExists.run w₁ = (.ok false, w₂) ∧
      w₂.disk.readText Store.deskStore.path = .ok "# mine\r\ndev:gpu:1" ∧
      (Store.deskStore.grant "dev" kind value).run w₂ = (.ok r, w₃) ∧
      Disk.DirsIn loggedDesk w₃.disk := by
  have hlog : (openLog deskUser (grantInvocation [] "dev" kind value)).run { disk := Store.desk } =
      (.ok (), ((openLog deskUser (grantInvocation [] "dev" kind value)).run
        { disk := Store.desk }).2) := rfl
  generalize hw₁ : ((openLog deskUser (grantInvocation [] "dev" kind value)).run
    { disk := Store.desk }).2 = w₁ at hlog
  -- opening the log does the same to the tree whatever is asked for
  have hdisk : w₁.disk = loggedDesk := by
    rw [← hw₁]
    rfl
  have hstands : Store.Stands Store.deskStore w₁.disk 0o600 "# mine\r\ndev:gpu:1".toUTF8 := by
    have hd := wellFormed_openLog Store.wellFormed_desk hlog
    rw [hdisk] at hd ⊢
    exact ⟨⟨hd, rfl, nofun⟩, rfl, rfl, rfl⟩
  have hensure := hstands.way.run_ensureExists hstands.file
  obtain ⟨w₃, hgrant, hafter⟩ := hstands.exists_grant hr
  have hdirs : Disk.DirsIn w₁.disk w₃.disk := by
    rw [hafter]
    exact (Disk.sameBut_put _ _ _).dirsIn hstands.way.noDir
  exact ⟨w₁, w₁, w₃, hlog, hensure,
    Disk.readText_eq_ok_iff.mpr ⟨hstands.way.leads, _, hstands.file, hstands.read⟩, hgrant,
    hdisk ▸ hdirs⟩

theorem grant_outlives_check_desk :
    ∃ w', (run deskUser ["grant", "dev", "home_folder", "~guest"]).run { disk := Store.desk } =
        (.ok (.returned 0), w') ∧
      ((Store.deskStore.list "dev").run w').1 =
        .ok [⟨"dev", .gpu, "1"⟩, ⟨"dev", .homeFolder, "~guest"⟩] := by
  obtain ⟨w₁, w₂, w₃, hlog, hensure, ht, hgrant, hdirs⟩ :=
    grant_deskUser "home_folder" "~guest" (r := ⟨"dev", .homeFolder, "~guest"⟩) rfl
  obtain ⟨w', texts, -, -, -, -, -, hlist, hanswered, -⟩ := grant_outlives_check
    (List.forall_mem_nil Setting.Fits) (by decide) Store.wellFormed_desk hlog rfl hensure hgrant
  have hholds : w₃.disk.holds (Path.parse "/home") = .ok true := by
    have hlocate : loggedDesk.locate (Path.parse "/home") = .ok ["home"] := rfl
    have hdir : loggedDesk.get? ["home"] = some (.dir 0o755) := rfl
    rw [Disk.holds, Disk.stat_of_locate (hdirs.locate hlocate) (hdirs.dirs _ _ hdir)]
  have hanswer : ¬ LeavesOpen deskUser w₃.disk ⟨"dev", .homeFolder, "~guest"⟩ := by
    have hverdict : grantVerdict deskUser w₃.disk ⟨"dev", .homeFolder, "~guest"⟩ = .ok none := by
      have hpath : Kind.homeFolder.hostPath? "~guest" = some "~guest" := by decide
      have hexpand : deskUser.expand (Path.parse "~guest") = .ok (Path.parse "/home") := rfl
      have habs : (Path.parse "/home").isAbsolute = true := by decide
      simp only [grantVerdict, hpath, pathVerdict, hexpand, habs, hholds, if_true]
    have hhome : Path.homeText deskUser.home = .ok "/home/me" := rfl
    rw [← grantVerdict_eq_error_iff hhome, hverdict]
    simp
  exact ⟨w', (hanswered hanswer).1, hlist _ ht⟩

/-- There are grants that are accepted and recorded, and yet end in a failure: such is one of a path
from the home of a user who does not exist. -/
theorem not_grant_outlives_check :
    ¬ ∀ (env : Environment) (w w₁ w₂ w₃ : World) (store : Store) (name kind value : String)
      (made : Bool) (r : Record), IsPlain value → w.disk.WellFormed →
      (openLog env (grantInvocation [] name kind value)).run w = (.ok (), w₁) →
      storeOf env (grantInvocation [] name kind value) = .ok store →
      store.ensureExists.run w₁ = (.ok made, w₂) →
      (store.grant name kind value).run w₂ = (.ok r, w₃) →
        ((run env ["grant", name, kind, value]).run w).1 = .ok (.returned 0) := by
  intro h
  obtain ⟨w₁, w₂, w₃, hlog, hensure, -, hgrant, -⟩ := grant_deskUser "mount" "~you/x:/x"
    (r := ⟨"dev", .mount, "~you/x:/x"⟩) rfl
  have hreturned := h _ _ _ _ _ _ _ _ _ _ _ (by decide) Store.wellFormed_desk hlog rfl hensure hgrant
  obtain ⟨w', -, hrun, -⟩ :=
    run_grantWords (List.forall_mem_nil Setting.Fits) (by decide) hlog rfl hensure hgrant
  have hverdict : grantVerdict deskUser w₃.disk ⟨"dev", .mount, "~you/x:/x"⟩ =
      .error (.home .unknown) := rfl
  rw [hverdict] at hrun
  change (run deskUser ["grant", "dev", "mount", "~you/x:/x"]).run { disk := Store.desk } = _ at hrun
  rw [hrun] at hreturned
  cases hreturned

end CommandLine

end BoxWarden
