import BoxWarden.Proofs.CommandLine.Image
import BoxWarden.Proofs.CommandLine.PathCheck
import BoxWarden.Proofs.Store.Refusal

/-!
The file of grants in the text editor of the user. The words of the editor come before the path of
the file, so it is an editor that is started as long as there are words. A line of blanks has none.
-/

namespace BoxWarden

open Session

namespace Shell

theorem next_ne_between (w : List Char) (c : Char) : Reading.next w c ≠ .between := by
  unfold Reading.next
  repeat' split
  all_goals simp

/-- Inside a word there is one more word to come, even an empty one. -/
theorem read_ne_nil {r : Reading} (hr : r ≠ .between) (cs : List Char) : read r cs ≠ .ok [] := by
  induction cs generalizing r with
  | nil => cases r <;> simp_all [read]
  | cons c cs ih =>
    cases r with
    | between => exact absurd rfl hr
    | plain w =>
      rw [read]
      split
      · cases read .between cs <;> simp [Except.map]
      · exact ih (next_ne_between w c)
    | single w =>
      rw [read]
      split <;> exact ih (by simp)
    | double w =>
      rw [read]
      split
      · exact ih (by simp)
      · split <;> exact ih (by simp)
    | escaped w => exact ih (by simp)
    | escapedInDouble w =>
      rw [read]
      split <;> exact ih (by simp)

/-- Only a text of blanks has no words. -/
theorem split_eq_nil_iff {s : String} : split s = .ok [] ↔ ∀ c ∈ s.toList, isSpace c = true := by
  have key (cs : List Char) : read .between cs = .ok [] ↔ ∀ c ∈ cs, isSpace c = true := by
    induction cs with
    | nil => simp [read]
    | cons c cs ih =>
      cases hc : isSpace c with
      | true => simp [read, hc, ih]
      | false => simp [read, hc, read_ne_nil (next_ne_between [] c)]
  rw [← key, split]
  cases read .between s.toList <;> simp [Except.map]

end Shell

/-- A new node is refused as one that is there already only if something is. -/
theorem Disk.exists_stat_of_create {d : Disk} {p : Path} {n : Node}
    (h : d.create p n = .error .alreadyThere) : ∃ m, d.stat p = .ok m := by
  unfold create at h
  cases hl : d.locate p with
  | error e =>
    rw [hl] at h
    obtain rfl := Except.error.inj h
    obtain h | h | h | h | h := locate_error hl <;> cases h
  | ok l =>
    cases hg : d.get? l with
    | some m => exact ⟨m, stat_of_locate hl hg⟩
    | none =>
      -- no directory refuses a node for this
      have hcheck : d.checkDirOf l ≠ .error .alreadyThere := by
        unfold checkDirOf
        repeat' split
        all_goals simp
      simp only [hl, hg, bind, Except.bind] at h
      cases hdir : d.checkDirOf l with
      | ok u =>
        rw [hdir] at h
        cases h
      | error e =>
        rw [hdir] at h
        obtain rfl := Except.error.inj h
        exact absurd hdir hcheck

/-- What has been made to exist is there. -/
theorem Store.holds_of_ensureExists {s : Store} {w w' : World} {made : Bool}
    (h : s.ensureExists.run w = (.ok made, w')) : w'.disk.holds s.path = .ok true := by
  rw [run_ensureExists] at h
  generalize (DiskM.makeDirs s.path.parent 0o777 true).run w.disk = x at h
  obtain ⟨e | u, d⟩ := x
  · cases h
  · simp only [DiskM.writeNew, DiskM.run_change] at h
    cases hcreate : d.create s.path (.file (Disk.newMode 0o644) heading.toUTF8) with
    | ok d' =>
      obtain ⟨hl, hnone, -, rfl⟩ := Disk.create_eq_ok_iff.mp hcreate
      have hdirs := (Disk.sameBut_put d (d.place s.path)
        (.file (Disk.newMode 0o644) heading.toUTF8)).dirsIn (by simp [hnone])
      rw [hcreate] at h
      obtain ⟨-, rfl⟩ := Prod.mk.inj h
      rw [World.disk_noted, Disk.holds,
        Disk.stat_of_locate (hdirs.locate hl) (Disk.get?_put_self d _ _)]
    | error e =>
      rw [hcreate] at h
      cases e with
      | alreadyThere =>
        obtain ⟨m, hstat⟩ := Disk.exists_stat_of_create hcreate
        obtain ⟨-, rfl⟩ := Prod.mk.inj h
        rw [Disk.holds, hstat]
      | _ => cases h

/-- The exit code of a command that was started for it, or why there is none. -/
def Reply.ending : Reply → Except Fault Int
  | .ended code .. => .ok code
  | .refused e => .error (.disk e)

theorem Reply.exists_of_ending_error {r : Reply} {f : Fault} (h : r.ending = .error f) :
    ∃ e, f = .disk e := by
  cases r with
  | ended code out err => cases h
  | refused e => exact ⟨e, (Except.error.inj h).symm⟩

namespace CommandLine

variable {env : Environment} {args : List String} {i : Invocation} {name : Option String}
  {store : Store} {made : Bool} {w w₁ w₂ : World}

/-- Once the file is there, the words of the editor are read and the command is started. -/
theorem run_runEdit (env : Environment) (hensure : store.ensureExists.run w₁ = (.ok made, w₂))
    (name : Option String) :
    (runEdit env store name true).run w₁ = match Shell.split env.editorLine with
      | .error e => (.error (.split e), w₂)
      | .ok words => (w₂.next.ending, w₂.afterStart (words ++ [store.path.text]) false) := by
  rw [runEdit, run_bind_ok hensure, if_pos rfl]
  cases hsplit : Shell.split env.editorLine with
  | error e => rfl
  | ok words =>
    refine (run_bind_ok (run_require _ w₂) _).trans ?_
    refine (run_bind_ok (run_start (words ++ [store.path.text]) false w₂) _).trans ?_
    cases w₂.next <;> rfl

/-- A run that comes to the start of the text editor ends as the editor does. -/
theorem run_of_split (hparse : parse args = .invocation i) (hedit : i.request = .edit name true)
    (hlog : (openLog env i).run w = (.ok (), w₁)) (hstore : storeOf env i = .ok store)
    (hensure : store.ensureExists.run w₁ = (.ok made, w₂)) {words : List String}
    (hsplit : Shell.split env.editorLine = .ok words) :
    (run env args).run w =
      (w₂.next.ending.map .returned, w₂.afterStart (words ++ [store.path.text]) false) := by
  have hhelp : i.request ≠ .help := by simp [hedit]
  have hcarry := run_runEdit env hensure name
  rw [← show carryOut env store i = runEdit env store name true by rw [carryOut, hedit]] at hcarry
  simp only [hsplit] at hcarry
  cases hend : w₂.next.ending with
  | ok code =>
    rw [hend] at hcarry
    exact run_of_openLog hparse hhelp hlog hstore (run_tryCatch_ok hcarry report)
  | error f =>
    rw [hend] at hcarry
    obtain ⟨e, rfl⟩ := Reply.exists_of_ending_error hend
    exact run_of_openLog_error hparse hhelp hlog hstore rfl hcarry

/-- What keeps the text editor from being started. -/
inductive Kept (env : Environment) (i : Invocation) (w : World) : Fault → Prop
  | log {f : Fault} {w₁ : World} (h : (openLog env i).run w = (.error f, w₁)) : Kept env i w f
  | noFile {f : Fault} (h : storeOf env i = .error f) : Kept env i w f
  | file {f : Fault} {store : Store} {w₁ w₂ : World} (hlog : (openLog env i).run w = (.ok (), w₁))
      (hstore : storeOf env i = .ok store) (h : store.ensureExists.run w₁ = (.error f, w₂)) :
      Kept env i w f
  | words {e : Shell.SplitError} (h : Shell.split env.editorLine = .error e) :
      Kept env i w (.split e)

/-- A request for the text editor either fails before a command is started, for the log, the file or
the words of the editor, or it makes the file exist and then starts one command and gives its exit
code. The command is the words of the editor with the path of the file behind them. There is an
editor in it unless the line that names the editor is one of blanks; then the file itself is
started. -/
theorem raw_edit_starts_one (env : Environment) (hparse : parse args = .invocation i)
    (hedit : i.request = .edit name true) (w : World) :
    (∃ f w', (run env args).run w = (.error f, w') ∧ w'.started = w.started ∧ Kept env i w f) ∨
      ∃ (store : Store) (words : List String) (w₂ : World),
        storeOf env i = .ok store ∧ Shell.split env.editorLine = .ok words ∧
        w₂.started = w.started ∧ w₂.disk.holds store.path = .ok true ∧
        (run env args).run w =
          (w.next.ending.map .returned, w₂.afterStart (words ++ [store.path.text]) false) ∧
        (words ≠ [] ↔ ∃ c ∈ env.editorLine.toList, Shell.isSpace c = false) := by
  have hhelp : i.request ≠ .help := by simp [hedit]
  obtain ⟨r, w₁, echo, hlog, hran₁⟩ := exists_ran_openLog env i w
  have hstarted₁ : w₁.started = w.started := hran₁.started.trans (List.append_nil _)
  have hrun : (run env args).run w = (do
      openLog env i
      let store ← require (storeOf env i)
      return .returned (← tryCatch (carryOut env store i) report) : Session Ending).run w := by
    rw [run, hparse]
    simp only [if_neg hhelp]
  cases r with
  | error f =>
    exact .inl ⟨f, w₁, hrun.trans (run_bind_error hlog _), hstarted₁, .log hlog⟩
  | ok u =>
    cases hstore : storeOf env i with
    | error f =>
      have hfile : (require (storeOf env i)).run w₁ = (.error f, w₁) := by rw [run_require, hstore]
      exact .inl ⟨f, w₁, hrun.trans ((run_bind_ok hlog _).trans (run_bind_error hfile _)),
        hstarted₁, .noFile hstore⟩
    | ok store =>
      rcases hensure : store.ensureExists.run w₁ with ⟨f | made, w₂⟩
      · obtain ⟨e, rfl⟩ := store.fault_of_ensureExists w₁ (congrArg Prod.fst hensure)
        have hcarry : (carryOut env store i).run w₁ = (.error (.disk e), w₂) := by
          rw [carryOut, hedit]
          exact run_bind_error hensure _
        exact .inl ⟨_, w₂, run_of_openLog_error hparse hhelp hlog hstore rfl hcarry,
          (store.silent_ensureExists.ran hensure).started.trans (by simpa using hstarted₁),
          .file hlog hstore hensure⟩
      · have hran₂ := hran₁.quiet (store.silent_ensureExists.ran hensure)
        have hstarted₂ : w₂.started = w.started := hran₂.started.trans (List.append_nil _)
        cases hsplit : Shell.split env.editorLine with
        | error e =>
          have hcarry := run_runEdit env hensure name
          rw [← show carryOut env store i = runEdit env store name true by rw [carryOut, hedit],
            hsplit] at hcarry
          exact .inl ⟨_, w₂, run_of_openLog_error hparse hhelp hlog hstore rfl hcarry, hstarted₂,
            .words hsplit⟩
        | ok words =>
          refine .inr ⟨store, words, w₂, rfl, rfl, hstarted₂, Store.holds_of_ensureExists hensure,
            ?_, ?_⟩
          · rw [run_of_split hparse hedit hlog hstore hensure hsplit, hran₂.next]
            rfl
          · have hblank : words = [] ↔ ∀ c ∈ env.editorLine.toList, Shell.isSpace c = true := by
              rw [← Shell.split_eq_nil_iff, hsplit, Except.ok.injEq]
            rw [ne_eq, hblank]
            simp

/-- The user of the desk with a text editor, which ends with an exit code of its own. -/
def deskEditor (editor : String) : Environment := { deskUser with editor := some editor }

def editDesk : World := { disk := Store.desk, replies := [.ended 3 "" ""] }

/-- At the desk nothing keeps an editor from being started. -/
theorem edit_deskEditor (editor : String) : ∃ w₁ w₂,
    (openLog (deskEditor editor) { request := .edit none true }).run editDesk = (.ok (), w₁) ∧
      Store.deskStore.ensureExists.run w₁ = (.ok false, w₂) ∧ w₂.started = [] := by
  have hsame : (openLog (deskEditor editor) { request := .edit none true }).run editDesk =
      (openLog deskUser { request := .edit none true }).run editDesk := rfl
  have hlog : (openLog deskUser { request := .edit none true }).run editDesk =
      (.ok (), ((openLog deskUser { request := .edit none true }).run editDesk).2) := rfl
  exact ⟨_, _, hsame.trans hlog, rfl, rfl⟩

theorem raw_edit_starts_one_desk : ∃ w',
    (run (deskEditor "nano -w") ["edit", "--raw"]).run editDesk = (.ok (.returned 3), w') ∧
      w'.started = [(["nano", "-w", "p.conf"], false)] := by
  have hparse : parse ["edit", "--raw"] = .invocation { request := .edit none true } := by
    decide +kernel
  obtain ⟨w₁, w₂, hlog, hensure, -⟩ := edit_deskEditor "nano -w"
  obtain ⟨f, w', -, -, hkept⟩ | ⟨store, words, w', hstore, hsplit, hstarted, -, hrun, -⟩ :=
    raw_edit_starts_one (deskEditor "nano -w") hparse rfl editDesk
  · cases hkept with
    | log h =>
      rw [hlog] at h
      cases h
    | noFile h => cases h
    | file hlog' hstore h =>
      obtain rfl := Except.ok.inj hstore
      rw [hlog] at hlog'
      obtain ⟨-, rfl⟩ := Prod.mk.inj hlog'
      cases hensure.symm.trans h
    | words h => cases h
  · obtain rfl := Except.ok.inj hstore
    obtain rfl := Except.ok.inj hsplit
    refine ⟨_, hrun, ?_⟩
    have hafter : (w'.afterStart ["nano", "-w", "p.conf"] false).started =
        w'.started ++ [(["nano", "-w", "p.conf"], false)] := (ran_started w' _ false).started
    exact hafter.trans (by rw [hstarted]; rfl)

/-- An editor that is named by a blank is none: the file is started in its place. -/
theorem not_raw_edit_starts_editor :
    ¬ ∀ (env : Environment) (args : List String) (i : Invocation) (name : Option String) (w : World),
      parse args = .invocation i → i.request = .edit name true →
        (∃ f, ((run env args).run w).1 = .error f ∧ ((run env args).run w).2.started = w.started) ∨
          ∃ editor words path, ((run env args).run w).2.started =
            w.started ++ [(editor :: words ++ [path], false)] := by
  intro h
  have hparse : parse ["edit", "--raw"] = .invocation { request := .edit none true } := by
    decide +kernel
  obtain ⟨w₁, w₂, hlog, hensure, hstarted⟩ := edit_deskEditor " "
  have hsplit : Shell.split (deskEditor " ").editorLine = .ok [] := rfl
  have hrun := run_of_split hparse rfl hlog rfl hensure hsplit
  have hfile : ((run (deskEditor " ") ["edit", "--raw"]).run editDesk).2.started =
      [(["p.conf"], false)] := by
    rw [hrun, (ran_started w₂ _ false).started, hstarted]
    rfl
  obtain ⟨f, -, hnone⟩ | ⟨editor, words, path, hone⟩ :=
    h (deskEditor " ") ["edit", "--raw"] _ none editDesk hparse rfl
  · rw [hfile] at hnone
    cases hnone
  · rw [hfile] at hone
    have hwords := (Prod.mk.inj (List.cons.inj hone).1).1
    have hlength := congrArg List.length hwords
    simp at hlength

end CommandLine

end BoxWarden
