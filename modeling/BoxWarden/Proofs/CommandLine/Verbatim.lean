import BoxWarden.Proofs.CommandLine.Log
import BoxWarden.Proofs.Store.Beside
import BoxWarden.Proofs.Store.Refusal

/-!
Granting and revoking from the command line. The words reach the store as they were written, the
tree is left as the store leaves it, but for the log, and what the store answers decides how the run
ends.
-/

namespace BoxWarden

open Session

namespace CommandLine

open Terminal
open Store (Apart Alongside Indifferent Placed)

variable {env : Environment} {i : Invocation} {w w₁ w₂ : World} {d e : Disk} {dir : Path}
  {store : Store} {args : List String} {p n k v : String} {α : Type}

/-- The log is not in the way of a file: the way to it does not lead over the file of the log, and no
directory that is made for the log takes its place, or the one of a temporary file beside it. -/
structure ClearOfLog (dir : Path) (d : Disk) (p : Path) : Prop where
  way : ∀ parts, parts <+: p.parts → d.place ⟨p.root, parts⟩ ≠ d.place (dir.child logName)
  free : ¬ IsLogDir dir d (d.place p)
  temp : ∀ k, ¬ IsLogDir dir d (DiskM.tempPlace d p k)

/-- Temporary files are hidden ones, and the log is none. -/
theorem tempName_ne {name : String} (h : name.toList.head? ≠ some '.') (file : String) (k : Nat) :
    DiskM.tempName file k ≠ name := by
  rintro rfl
  rw [DiskM.toList_tempName] at h
  exact h rfl

theorem ClearOfLog.apart (h : ClearOfLog dir d store.path) :
    Apart (IsLogDir dir d) (d.place (dir.child logName)) store d := by
  refine ⟨h.way, h.free, fun k => ⟨h.temp k, fun heq => ?_⟩⟩
  rw [d.place_child_of_name dir (by decide), DiskM.tempPlace] at heq
  have hname := List.singleton_inj.mp (List.append_inj_right' heq rfl)
  exact tempName_ne (by decide) _ _ hname

/-- The file that the command line names is the one that is worked on. -/
theorem storeOf_of_config (hpath : '~' ∉ p.toList) (hconfig : i.config = some p) :
    storeOf env i = .ok ⟨Path.parse p⟩ := by
  have hexpand := Environment.expand_of_ok (Path.expandHome_of_not_mem hpath env.home env.users)
  rw [storeOf, hconfig]
  simp only [hexpand]
  rfl

/-- What the store answers decides how a run ends: after a refusal with an exit code of one, and with
the failure if the tree is to blame. -/
def ending (finish : α → Except Fault Int) : Except Fault α → Except Fault Ending
  | .ok a => (finish a).map .returned
  | .error f => if f.isRefusal then .ok (.returned 1) else .error f

/-- A command line that passes a task on to the store ends as the answer demands, and leaves the tree
that the task leaves by itself, but for the log. -/
def PassesOn (env : Environment) (w : World) (args : List String) (task : Session α)
    (finish : Disk → α → Except Fault Int) : Prop :=
  ∃ answer w₁ w', task.run w = (answer, w₁) ∧
    (run env args).run w = (ending (finish w'.disk) answer, w') ∧
      ∀ l, ¬ IsLogPlace env w.disk l → w'.disk.get? l = w₁.disk.get? l

/-- A failed task ends the run, or its refusal does. -/
theorem run_of_fault (hparse : parse args = .invocation i) (hhelp : i.request ≠ .help)
    (hlog : (openLog env i).run w = (.ok (), w₁)) (hstore : storeOf env i = .ok store) {f : Fault}
    (hf : f.isRefusal = true ∨ ∃ e, f = .disk e)
    (hcarry : (carryOut env store i).run w₁ = (.error f, w₂)) :
    ∃ w', (run env args).run w =
        (if f.isRefusal then .ok (.returned 1) else .error f, w') ∧ w'.disk = w₂.disk := by
  obtain hrefusal | ⟨e, rfl⟩ := hf
  · obtain ⟨w', hreport, hdisk, -⟩ := does_report_refusal hrefusal w₂
    rw [if_pos hrefusal]
    exact ⟨w', run_of_openLog hparse hhelp hlog hstore
      ((run_tryCatch_error hcarry _).trans hreport), hdisk⟩
  · exact ⟨w₂, run_of_openLog_error hparse hhelp hlog hstore rfl hcarry, rfl⟩

/-- A request passes its task on if it begins with it, goes on without touching the tree, and the
log makes no difference to the task. -/
theorem passesOn (hparse : parse args = .invocation i) (hhelp : i.request ≠ .help)
    (hstore : storeOf env i = .ok store) (hdir : env.stateDir = .ok dir)
    (hopens : LogOpens dir w.disk e) (hclear : ClearOfLog dir w.disk store.path)
    (hplaced : Placed store w.disk) {task : Session α} {rest : α → Session Int}
    {finish : Disk → α → Except Fault Int}
    (htask : Indifferent (IsLogDir dir w.disk) (w.disk.place (dir.child logName)) store task)
    (hfault : ∀ w f, (task.run w).1 = .error f → f.isRefusal = true ∨ ∃ e, f = .disk e)
    (hcarry : ∀ w, (carryOut env store i).run w = (task >>= rest).run w)
    (hrest : ∀ a w, ∃ w', (rest a).run w = (finish w.disk a, w') ∧ w'.disk = w.disk)
    (hreport : ∀ d a f, finish d a = .error f → report f = throw f) :
    PassesOn env w args task finish := by
  obtain ⟨w₁, hlog, rfl⟩ := hopens.exists_openLog hdir i
  obtain ⟨hanswer, hafter⟩ := htask ⟨hplaced, hclear.apart, hopens.beside,
    wellFormed_openLog hplaced.wellFormed hlog⟩
  -- the request begins with the task, in the tree with the log
  rcases hrun : task.run w₁ with ⟨answer, w₂⟩
  rw [hrun] at hanswer hafter
  have htree {w' : World} (hdisk : w'.disk = w₂.disk) (l : Loc) (hl : ¬ IsLogPlace env w.disk l) :
      w'.disk.get? l = (task.run w).2.disk.get? l := by
    rw [hdisk]
    exact get?_of_beside hdir hafter.beside hl
  suffices ∃ w', (run env args).run w = (ending (finish w'.disk) answer, w') ∧
      w'.disk = w₂.disk by
    obtain ⟨w', hend, hdisk⟩ := this
    exact ⟨answer, (task.run w).2, w', Prod.ext hanswer.symm rfl, hend, htree hdisk⟩
  cases answer with
  | error f =>
    have hfailed : (carryOut env store i).run w₁ = (.error f, w₂) :=
      (hcarry w₁).trans (run_bind_error hrun rest)
    exact run_of_fault hparse hhelp hlog hstore (hfault w₁ f (congrArg Prod.fst hrun)) hfailed
  | ok a =>
    obtain ⟨w', hgo, hdisk⟩ := hrest a w₂
    have hdone : (carryOut env store i).run w₁ = (finish w₂.disk a, w') :=
      (hcarry w₁).trans ((run_bind_ok hrun rest).trans hgo)
    rw [← hdisk] at hdone
    exact ⟨w', run_of_carried hparse hhelp hlog hstore (hreport _ a) hdone, hdisk⟩

/-- What is done for a grant: the file is made to exist, and takes the grant. -/
def granting (store : Store) (n k v : String) : Session Record := do
  let _ ← store.ensureExists
  store.grant n k v

theorem indifferent_granting (new : Loc → Prop) (file : Loc) :
    Indifferent new file store (granting store n k v) :=
  Store.indifferent_ensureExists.bind fun _ => Store.indifferent_grant n k v

theorem fault_of_granting {f : Fault} (h : ((granting store n k v).run w).1 = .error f) :
    f.isRefusal = true ∨ ∃ e, f = .disk e := by
  rw [granting, run_bind] at h
  rcases hensure : store.ensureExists.run w with ⟨f' | made, w'⟩
  · rw [hensure] at h
    obtain rfl := Except.error.inj h
    exact .inr (store.fault_of_ensureExists w (congrArg Prod.fst hensure))
  · rw [hensure] at h
    exact (store.fault_of_grant w' h).imp_left Store.isRefusal_of_grantOf

theorem run_runGrant_eq (w : World) : (runGrant env store n (some k) (some v)).run w =
    (granting store n k v >>= tell env).run w := by
  rw [granting, run_bind, run_bind]
  rcases hensure : store.ensureExists.run w with ⟨f | made, w₁⟩
  · exact run_bind_error hensure _
  · rcases hgrant : (store.grant n k v).run w₁ with ⟨f | r, w₂⟩
    · simp only [hgrant]
      exact (run_bind_ok hensure _).trans (run_bind_error hgrant _)
    · simp only [hgrant]
      exact run_runGrant hensure hgrant

/-- What is said of a revocation. -/
def tellRevoked (n k : String) (count : Nat) : Session Int := do
  if count ≠ 0 then
    say .info ("Revoked " ++ toString count ++ " " ++ k ++ " grant(s) from " ++ n)
    say .info (applyHint n)
  else say .warn (n ++ " has no " ++ k ++ " grants")
  pure 0

theorem run_tellRevoked (count : Nat) (w : World) :
    ∃ w', (tellRevoked n k count).run w = (.ok 0, w') ∧ w'.disk = w.disk := by
  unfold tellRevoked
  by_cases hcount : count = 0
  · obtain ⟨w', hsay, hdisk, -⟩ := does_say .warn (n ++ " has no " ++ k ++ " grants") w
    rw [if_neg (by simp [hcount])]
    exact ⟨w', run_bind_ok hsay _, hdisk⟩
  · obtain ⟨w₁, hsay, hdisk, -⟩ := does_say .info
      ("Revoked " ++ toString count ++ " " ++ k ++ " grant(s) from " ++ n) w
    obtain ⟨w', hhint, hdisk', -⟩ := does_say .info (applyHint n) w₁
    rw [if_pos hcount]
    exact ⟨w', (run_bind_ok hsay _).trans (run_bind_ok hhint _), hdisk'.trans hdisk⟩

section
variable (hp : IsPlain p) (hn : IsPlain n) (hk : IsPlain k)
include hp hn hk

theorem parse_revoke : parse ["--config", p, "revoke", n, k] =
    .invocation { config := some p, request := .revoke n (some k) } := by
  have hfits : ∀ s ∈ [Setting.config p], s.Fits := List.forall_mem_singleton.mpr hp
  exact parse_settings (c := .revoke) hfits (by simp [hn, hk]) (read_revoke hn hk)

theorem parse_grant (hv : IsPlain v) : parse ["--config", p, "grant", n, k, v] =
    .invocation { config := some p, request := .grant n (some k) (some v) } := by
  have hfits : ∀ s ∈ [Setting.config p], s.Fits := List.forall_mem_singleton.mpr hp
  exact parse_settings (c := .grant) hfits (by simp [hn, hk, hv]) (read_grant hn hk hv)

end

/-- The exit code of one is for what the store refuses. -/
theorem PassesOn.returned_one_iff {task : Session α} {finish : Disk → α → Except Fault Int}
    (h : PassesOn env w args task finish) (hone : ∀ d a, finish d a ≠ .ok 1) :
    ((run env args).run w).1 = .ok (.returned 1) ↔
      ∃ f, f.isRefusal = true ∧ (task.run w).1 = .error f := by
  obtain ⟨answer, w₁, w', htask, hrun, -⟩ := h
  rw [hrun, htask]
  cases answer with
  | error f => by_cases hf : f.isRefusal = true <;> simp [ending, hf]
  | ok a =>
    have hone := hone w'.disk a
    cases hfinish : finish w'.disk a with
    | error f => simp [ending, hfinish, Except.map]
    | ok code => simpa [ending, hfinish, Except.map] using hone

theorem grantCode_ne_one (d : Disk) (r : Record) : grantCode env d r ≠ .ok 1 := by
  unfold grantCode
  cases grantVerdict env d r <;> simp [Except.map]

section
variable (hp : IsPlain p) (hpath : '~' ∉ p.toList) (hn : IsPlain n) (hk : IsPlain k)
  (hplaced : Placed ⟨Path.parse p⟩ w.disk) (hdir : env.stateDir = .ok dir)
  (hopens : LogOpens dir w.disk e) (hclear : ClearOfLog dir w.disk (Path.parse p))
include hp hpath hn hk hplaced hdir hopens hclear

theorem passesOn_grant (hv : IsPlain v) : PassesOn env w ["--config", p, "grant", n, k, v]
    (granting ⟨Path.parse p⟩ n k v) (grantCode env) :=
  passesOn (parse_grant hp hn hk hv) (by simp) (storeOf_of_config hpath rfl) hdir hopens hclear
    hplaced (indifferent_granting _ _) (fun _ _ => fault_of_granting) run_runGrant_eq
    (fun r w => by
      obtain ⟨w', htell, hdisk, -⟩ := does_tell env r w
      exact ⟨w', htell, hdisk⟩)
    (fun _ _ _ => report_of_grantCode)

theorem passesOn_revoke : PassesOn env w ["--config", p, "revoke", n, k]
    (Store.revoke ⟨Path.parse p⟩ n k) (fun _ _ => .ok 0) :=
  passesOn (parse_revoke hp hn hk) (by simp) (storeOf_of_config hpath rfl) hdir hopens hclear
    hplaced (Store.indifferent_revoke n k)
    (fun w f h => (Store.fault_of_revoke _ w h).imp_left fun ⟨hf, _⟩ => hf ▸ rfl)
    (fun _ => rfl) run_tellRevoked (fun _ _ _ h => by cases h)

/-- The command lines of a grant and of a revocation ask for exactly what stands there, whatever the
words are, and do what the store does with the file that they name: they leave the same tree, but for
the log. A grant ends as the check of its host path does, and a revocation with zero. It is one for
what the store refuses, which is no kind but an unknown one where something is revoked; and if the
tree keeps the store from its work, the run ends in the same failure. -/
theorem grants_pass_verbatim (hv : IsPlain v) :
    parse ["--config", p, "grant", n, k, v] =
        .invocation { config := some p, request := .grant n (some k) (some v) } ∧
      parse ["--config", p, "revoke", n, k] =
        .invocation { config := some p, request := .revoke n (some k) } ∧
      PassesOn env w ["--config", p, "grant", n, k, v] (granting ⟨Path.parse p⟩ n k v)
        (grantCode env) ∧
      (((run env ["--config", p, "grant", n, k, v]).run w).1 = .ok (.returned 1) ↔
        ∃ f, f.isRefusal = true ∧ ((granting ⟨Path.parse p⟩ n k v).run w).1 = .error f) ∧
      PassesOn env w ["--config", p, "revoke", n, k] (Store.revoke ⟨Path.parse p⟩ n k)
        (fun _ _ => .ok 0) ∧
      (((run env ["--config", p, "revoke", n, k]).run w).1 = .ok (.returned 1) ↔
        k ∉ Kind.names) := by
  have hgrant := passesOn_grant hp hpath hn hk hplaced hdir hopens hclear hv
  have hrevoke := passesOn_revoke hp hpath hn hk hplaced hdir hopens hclear
  refine ⟨parse_grant hp hn hk hv, parse_revoke hp hn hk, hgrant,
    hgrant.returned_one_iff grantCode_ne_one, hrevoke, ?_⟩
  rw [hrevoke.returned_one_iff (by simp)]
  constructor
  · rintro ⟨f, hf, hrun⟩
    exact (Store.unknown_of_revoke_refused _ w hf hrun).2
  · intro hnames
    exact ⟨_, rfl, congrArg Prod.fst (Store.run_revoke_of_unknown _ w n hnames)⟩

end

/-- A directory of the log has the place that its path spells, if the path is a plain one. -/
theorem place_logDir (d : Disk) (hroot : dir.root = .slash) (hup : ".." ∉ dir.parts)
    {parts : List String} (hparts : parts <+: dir.parts) : d.place ⟨dir.root, parts⟩ = parts := by
  rw [hroot]
  exact Loc.foldl_follow (fun h => hup (hparts.subset h)) []

/-- Where the user at the desk has the log. -/
def deskLog : Path := ⟨.slash, ["home", "me", ".local", "state", "distrobox-secure"]⟩

theorem stateDir_deskUser : deskUser.stateDir = .ok deskLog := rfl

theorem logOpens_of_run {w : World} (h : ((openLog deskUser {}).run w).1 = .ok ()) :
    ∃ e, LogOpens deskLog w.disk e := by
  obtain ⟨dir, hdir, hopens⟩ := logOpens_of_openLog (Prod.ext h rfl)
  obtain rfl := Except.ok.inj (stateDir_deskUser.symm.trans hdir)
  exact ⟨_, hopens⟩

/-- The log of the user is not in the way of the file on the desk. -/
theorem clearOfLog_desk (hcwd : d.cwd = ["home"]) (hfile : d.get? ["home", "p.conf"] ≠ none) :
    ClearOfLog deskLog d Store.deskStore.path := by
  have hplace {parts : List String} (hup : ".." ∉ parts) :
      d.place ⟨.here, parts⟩ = "home" :: parts := by
    rw [Disk.place_eq, Loc.foldl_follow hup, hcwd]
    rfl
  have hlog : d.place (deskLog.child logName) = deskLog.parts ++ [logName] :=
    Loc.foldl_follow (by decide) []
  refine ⟨fun parts hparts => ?_, fun ⟨hnone, _⟩ => ?_, fun k ⟨_, parts, hparts, hl⟩ => ?_⟩
  · have hup : ".." ∉ parts := fun h => absurd (hparts.subset h) (by decide)
    have hhome : Store.deskStore.path.root = .here := rfl
    rw [hhome, hplace hup, hlog]
    intro heq
    have hshort : parts.length ≤ 1 := hparts.length_le
    have hlength : parts.length + 1 = 6 := congrArg List.length heq
    omega
  · rw [Store.deskStore, hplace (by decide)] at hnone
    exact hfile hnone
  · rw [place_logDir _ rfl (by decide) hparts] at hl
    rw [← hl, DiskM.tempPlace] at hparts
    have hparent : d.place Store.deskStore.path.parent = ["home"] := hplace List.not_mem_nil
    rw [hparent] at hparts
    obtain ⟨-, hname⟩ := List.cons_prefix_cons.mp hparts
    exact tempName_ne (by decide) _ _ (List.cons_prefix_cons.mp hname).1

theorem granting_desk (kind value line : String) {r : Record}
    (hr : Store.grantOf "dev" kind value = .ok r) (hline : r.line = line) :
    ∃ w', (granting Store.deskStore "dev" kind value).run { disk := Store.desk } = (.ok r, w') ∧
      w'.disk.get? ["home", "p.conf"] =
        some (.file 0o600 ("# mine\r\ndev:gpu:1".toUTF8 ++ ("\n" ++ line ++ "\n").toUTF8)) := by
  have hway : Store.Way Store.deskStore Store.desk := by
    refine ⟨Store.wellFormed_desk, rfl, ?_⟩
    simp [Disk.fileIs_some_iff.mp Store.fileIs_desk]
  have hensure := hway.run_ensureExists (w := { disk := Store.desk })
    (Disk.fileIs_some_iff.mp Store.fileIs_desk)
  obtain ⟨w', hgrant, hstands⟩ := Store.grant_desk kind value line hr hline
  have hdid := Store.did_grant (s := Store.deskStore) (w := { disk := Store.desk })
    Store.wellFormed_desk "dev" kind value
  rw [Store.perform, hgrant] at hdid
  have hplace : w'.disk.place Store.deskStore.path = ["home", "p.conf"] := hdid.place
  rw [← hplace]
  exact ⟨w', (run_bind_ok hensure _).trans hgrant, hstands.file⟩

theorem grants_pass_verbatim_desk : ∃ w',
    (run deskUser ["--config", "p.conf", "grant", "dev", "hostname", "my = \"box\" @1"]).run
        { disk := Store.desk } = (.ok (.returned 0), w') ∧
      w'.disk.get? ["home", "p.conf"] = some (.file 0o600
        "# mine\r\ndev:gpu:1\ndev:hostname:my = \"box\" @1\n".toUTF8) := by
  obtain ⟨e, hopens⟩ := logOpens_of_run (w := { disk := Store.desk }) rfl
  obtain ⟨-, -, hgrant, -⟩ := grants_pass_verbatim (w := { disk := Store.desk }) (p := "p.conf")
    (n := "dev") (k := "hostname") (v := "my = \"box\" @1") (by decide) (by decide) (by decide)
    (by decide) Store.holding_desk.placed stateDir_deskUser hopens
    (clearOfLog_desk rfl nofun) (by decide)
  obtain ⟨answer, w₁, w', htask, hrun, htree⟩ := hgrant
  obtain ⟨w₂, hgranting, hfile⟩ := granting_desk "hostname" "my = \"box\" @1"
    "dev:hostname:my = \"box\" @1" (r := ⟨"dev", .hostname, "my = \"box\" @1"⟩) rfl rfl
  obtain ⟨rfl, rfl⟩ := Prod.mk.inj (htask.symm.trans hgranting)
  refine ⟨w', hrun, ?_⟩
  rw [htree, hfile]
  · rfl
  · rintro ⟨dir, hdir, hplace⟩
    obtain rfl := Except.ok.inj (stateDir_deskUser.symm.trans hdir)
    obtain hplace | ⟨parts, hparts, hplace⟩ := hplace
    · exact absurd hplace (by decide)
    · rw [place_logDir _ rfl (by decide) hparts] at hplace
      rw [← hplace] at hparts
      exact absurd hparts (by decide)

/-- A desk that takes no new files. -/
def lockedDesk : Disk where
  nodes := [
    ([], .dir 0o755),
    (["home"], .dir 0o555),
    (["home", "p.conf"], .file 0o600 "dev:gpu:1\n".toUTF8),
    (["home", "me"], .dir 0o755)]
  cwd := ["home"]

/-- A known kind is no promise of an exit code of zero: where no temporary file can be made beside
the file of grants, the store cannot take a grant back, and the run ends in its failure. -/
theorem not_grants_pass_verbatim :
    ¬ ∀ (env : Environment) (w : World) (p n k t : String) (m : Nat) (dir : Path) (e : Disk),
      IsPlain p → '~' ∉ p.toList → IsPlain n → IsPlain k → Placed ⟨Path.parse p⟩ w.disk →
      w.disk.FileIs (w.disk.place (Path.parse p)) (some (m, t)) → env.stateDir = .ok dir →
      LogOpens dir w.disk e → ClearOfLog dir w.disk (Path.parse p) → k ∈ Kind.names →
        ((run env ["--config", p, "revoke", n, k]).run w).1 = .ok (.returned 0) := by
  intro h
  have hd : lockedDesk.WellFormed := Disk.wellFormed_of_isTree (by decide)
  have hfile : lockedDesk.FileIs (lockedDesk.place Store.deskStore.path)
      (some (0o600, "dev:gpu:1\n")) := rfl
  have hget := Disk.fileIs_some_iff.mp hfile
  have hway : Store.Way Store.deskStore lockedDesk := ⟨hd, rfl, by simp [hget]⟩
  have hclear : ClearOfLog deskLog lockedDesk Store.deskStore.path := clearOfLog_desk rfl nofun
  obtain ⟨e, hopens⟩ := logOpens_of_run (w := { disk := lockedDesk }) rfl
  have hzero := h deskUser { disk := lockedDesk } "p.conf" "dev" "gpu" _ _ _ _ (by decide)
    (by decide) (by decide) (by decide) (.present hway hget) hfile stateDir_deskUser hopens hclear
    (by decide)
  obtain ⟨answer, w₁, w', htask, hrun, -⟩ := passesOn_revoke (w := { disk := lockedDesk })
    (p := "p.conf") (n := "dev") (k := "gpu") (by decide) (by decide) (by decide) (by decide)
    (.present hway hget) stateDir_deskUser hopens hclear
  have hfull : ¬ DiskM.TakesTemp lockedDesk Store.deskStore.path := by
    intro htemp
    have htakes := htemp.checkDirOf hd hway.endsInName hway.leads
    cases htakes
  obtain ⟨err, d', hreplace⟩ :=
    DiskM.replace_of_not_takesTemp hfull (Store.without "dev" .gpu "dev:gpu:1\n")
  have hkind : Kind.parse "gpu" = .ok .gpu := rfl
  have hcount : Store.countIn "dev" .gpu "dev:gpu:1\n" ≠ 0 := by decide
  have hanswer : answer = .error (.disk err) := by
    have htext := Disk.textAt_of_file hway.leads hget (by decide)
    change (Store.deskStore.revoke "dev" "gpu").run { disk := lockedDesk } = _ at htask
    rw [Store.run_revoke, hkind] at htask
    simp only [htext, if_neg hcount, hreplace] at htask
    exact (Prod.mk.inj htask).1.symm
  rw [hrun, hanswer] at hzero
  cases hzero

end CommandLine

end BoxWarden
