import BoxWarden.Proofs.Deeds
import BoxWarden.Proofs.Store.File

/-!
Calls of the store, alone and in series. Each one is opened once, into what it asks of the tree and
what it does to it. None of them starts or prints anything.
-/

namespace BoxWarden.Store

open Session

variable (s : Store) (w : World)

theorem run_onDisk_eq {α : Type} (m : DiskM α) (w : World) :
    (onDisk m).run w = match m.run w.disk with
      | (.ok a, d) => (.ok a, { w with disk := d })
      | (.error e, d) => (.error (.disk e), { w with disk := d }) := by
  rw [run_onDisk]
  generalize m.run w.disk = x
  obtain ⟨r, d⟩ := x
  cases r <;> rfl

theorem run_text : s.text.run w = ((w.disk.textAt s.path).mapError Fault.disk, w) := by
  rw [text, run_bind, run_ask, Disk.textAt]
  cases w.disk.holds s.path with
  | error e => rfl
  | ok there =>
    cases there with
    | false => rfl
    | true =>
      change (ask (·.readText s.path)).run w = _
      exact run_ask _ w

/-- A text that the store reads is the one that stands in the tree. -/
theorem textAt_of_text {t : String} (h : (s.text.run w).1 = .ok t) :
    w.disk.textAt s.path = .ok t := by
  rw [run_text] at h
  cases ht : w.disk.textAt s.path with
  | error e =>
    rw [ht] at h
    cases h
  | ok t' =>
    rw [ht] at h
    obtain rfl := Except.ok.inj h
    rfl

/-- What is read of the file are its grants, and reading changes nothing in the tree. -/
theorem run_records : ∃ w', w'.disk = w.disk ∧
    s.records.run w = (((w.disk.textAt s.path).mapError Fault.disk).map grantsIn, w') := by
  rw [records, run_bind, run_text]
  cases w.disk.textAt s.path with
  | error e => exact ⟨w, rfl, rfl⟩
  | ok t =>
    let entry (x : Nat × Fault) : LogEntry := ⟨.warning, source,
      s.path.text ++ ":" ++ toString x.1 ++ ": skipping unparseable line: " ++ x.2.message⟩
    have hlog := run_forM_log entry (complaintsIn t) w
    refine ⟨((complaintsIn t).map entry).foldl World.noted w, World.disk_foldl_noted _ w, ?_⟩
    exact run_bind_ok hlog _

theorem run_list (container : String) : ∃ w', w'.disk = w.disk ∧
    (s.list container).run w = (((w.disk.textAt s.path).mapError Fault.disk).map
      fun t => (grantsIn t).filter (·.container = container), w') := by
  obtain ⟨w', hw', hrun⟩ := run_records s w
  refine ⟨w', hw', ?_⟩
  rw [list, run_bind, hrun]
  cases w.disk.textAt s.path <;> rfl

/-- The grants of a container are those in the text that stands in the tree. -/
theorem list_of_textAt {t : String} (h : w.disk.textAt s.path = .ok t) (container : String) :
    ((s.list container).run w).1 = .ok ((grantsIn t).filter (·.container = container)) := by
  obtain ⟨w', -, hrun⟩ := run_list s w container
  rw [hrun, h]
  rfl

theorem run_containers : ∃ w', w'.disk = w.disk ∧
    s.containers.run w = (((w.disk.textAt s.path).mapError Fault.disk).map
      fun t => ((grantsIn t).map Record.container).eraseDups, w') := by
  obtain ⟨w', hw', hrun⟩ := run_records s w
  refine ⟨w', hw', ?_⟩
  rw [containers, run_bind, hrun]
  cases w.disk.textAt s.path <;> rfl

/-- The grant that is asked for, or why it is refused before anything is touched. -/
def grantOf (container kind value : String) : Except Fault Record := do
  let k ← Kind.parse kind
  let name ← checkName container
  if fitsLine value then .ok ⟨name, k, value⟩ else .error (.lineBreak value)

/-- A grant is accepted as it was asked for. -/
theorem grantOf_eq_ok_iff {container kind value : String} {r : Record} :
    grantOf container kind value = .ok r ↔
      r.container = container ∧ r.kind.name = kind ∧ r.value = value ∧
        isContainerName r.container = true ∧ fitsLine r.value = true := by
  obtain ⟨c, k, v⟩ := r
  unfold grantOf Kind.parse checkName
  constructor
  · intro h
    cases hk : Kind.ofName? kind with
    | none => simp [hk, bind, Except.bind] at h
    | some k' =>
      by_cases hc : isContainerName container = true
      · by_cases hv : fitsLine value = true
        · simp only [hk, hc, hv, if_true, bind, Except.bind, Except.ok.injEq, Record.mk.injEq] at h
          obtain ⟨rfl, rfl, rfl⟩ := h
          exact ⟨rfl, Kind.name_of_ofName? hk, rfl, hc, hv⟩
        · simp [hk, hc, hv, bind, Except.bind] at h
      · simp [hk, hc, bind, Except.bind] at h
  · rintro ⟨rfl, rfl, rfl, hc, hv⟩
    simp only at hc hv
    simp [Kind.ofName?_name, hc, hv, bind, Except.bind]

theorem run_grant (container kind value : String) :
    (s.grant container kind value).run w = match grantOf container kind value with
      | .error e => (.error e, w)
      | .ok r =>
        match (DiskM.makeDirs s.path.parent 0o777 true).run w.disk with
        | (.error e, d) => (.error (.disk e), { w with disk := d })
        | (.ok (), d) =>
          match (DiskM.appendLine s.path r.line).run d with
          | (.error e, d') => (.error (.disk e), { w with disk := d' })
          | (.ok (), d') => (.ok r, World.noted { w with disk := d' }
              ⟨.debug, source, "Granted " ++ r.line⟩) := by
  rw [grant, run_bind, run_require]
  cases hk : Kind.parse kind with
  | error e => simp [grantOf, hk, bind, Except.bind]
  | ok k =>
    simp only [run_bind, run_require]
    cases hn : checkName container with
    | error e => simp [grantOf, hk, hn, bind, Except.bind]
    | ok name =>
      cases hv : fitsLine value with
      | false =>
        have hof : grantOf container kind value = .error (.lineBreak value) := by
          simp [grantOf, hk, hn, hv, bind, Except.bind]
        rw [hof]
        rfl
      | true =>
        have hof : grantOf container kind value = .ok ⟨name, k, value⟩ := by
          simp [grantOf, hk, hn, hv, bind, Except.bind]
        simp only [hof, if_true, run_bind, run_pure, makeDirectory, run_onDisk_eq, run_log]
        generalize (DiskM.makeDirs s.path.parent 0o777 true).run w.disk = x
        obtain ⟨e | u, d⟩ := x
        · rfl
        · simp only
          generalize (DiskM.appendLine s.path (Record.line ⟨name, k, value⟩)).run d = y
          obtain ⟨e | u, d'⟩ := y <;> rfl

/-- A grant that is made is the one that was asked for. -/
theorem grantOf_of_grant {container kind value : String} {r : Record} {w' : World}
    (h : (s.grant container kind value).run w = (.ok r, w')) :
    grantOf container kind value = .ok r := by
  rw [run_grant] at h
  cases hr : grantOf container kind value with
  | error e =>
    rw [hr] at h
    cases h
  | ok r' =>
    simp only [hr] at h
    generalize (DiskM.makeDirs s.path.parent 0o777 true).run w.disk = x at h
    obtain ⟨e | u, d⟩ := x
    · cases h
    · simp only at h
      generalize (DiskM.appendLine s.path r'.line).run d = y at h
      obtain ⟨e | u, d'⟩ := y
      · cases h
      · cases h
        rfl

theorem run_ensureExists :
    s.ensureExists.run w =
      match (DiskM.makeDirs s.path.parent 0o777 true).run w.disk with
      | (.error e, d) => (.error (.disk e), { w with disk := d })
      | (.ok (), d) =>
        match (DiskM.writeNew s.path heading 0o644).run d with
        | (.error .alreadyThere, d') => (.ok false, { w with disk := d' })
        | (.error e, d') => (.error (.disk e), { w with disk := d' })
        | (.ok (), d') => (.ok true, World.noted { w with disk := d' }
            ⟨.info, source, "Created permissions file " ++ s.path.text⟩) := by
  rw [ensureExists, run_bind, makeDirectory, run_onDisk_eq]
  generalize (DiskM.makeDirs s.path.parent 0o777 true).run w.disk = x
  obtain ⟨e | u, d⟩ := x
  · rfl
  · simp only [run_bind, run_onDisk_eq, run_tryCatch]
    generalize (DiskM.writeNew s.path heading 0o644).run d = y
    obtain ⟨e | u, d'⟩ := y
    · cases e <;> rfl
    · simp only [run_pure, if_true, run_log, run_bind]

theorem run_revoke (container kind : String) :
    (s.revoke container kind).run w = match Kind.parse kind with
      | .error e => (.error e, w)
      | .ok k =>
        match w.disk.textAt s.path with
        | .error e => (.error (.disk e), w)
        | .ok t =>
          if countIn container k t = 0 then (.ok 0, w)
          else match (DiskM.replace s.path (without container k t)).run w.disk with
            | (.error e, d) => (.error (.disk e), { w with disk := d })
            | (.ok (), d) => (.ok (countIn container k t), World.noted { w with disk := d }
                ⟨.debug, source, "Revoked " ++ toString (countIn container k t) ++ " " ++ k.name ++
                  " record(s) from " ++ container⟩) := by
  rw [revoke, run_bind, run_require]
  cases Kind.parse kind with
  | error e => rfl
  | ok k =>
    cases ht : w.disk.textAt s.path with
    | error e =>
      have htext : s.text.run w = (.error (.disk e), w) := by
        rw [run_text, ht]
        rfl
      exact run_bind_error htext _
    | ok t =>
      have htext : s.text.run w = (.ok t, w) := by
        rw [run_text, ht]
        rfl
      refine (run_bind_ok htext _).trans ?_
      by_cases hc : countIn container k t = 0
      · simp only [hc, ne_eq, not_true_eq_false, if_false, if_true]
        rfl
      · simp only [hc, ne_eq, not_false_eq_true, if_false, if_true]
        rw [run_bind, run_onDisk_eq]
        generalize (DiskM.replace s.path (without container k t)).run w.disk = x
        obtain ⟨e | u, d⟩ := x
        · rfl
        · simp only [run_bind, run_log, run_pure]

theorem silent_text : Silent s.text :=
  (silent_ask (·.holds s.path)).bind fun there => by
    cases there with
    | true => exact silent_ask (·.readText s.path)
    | false => exact silent_pure ""

theorem silent_records : Silent s.records :=
  s.silent_text.bind fun t =>
    (silent_forM (complaintsIn t) fun _ => silent_log _ _ _).bind fun _ => silent_pure _

theorem silent_list (container : String) : Silent (s.list container) :=
  s.silent_records.bind fun _ => silent_pure _

theorem silent_ensureExists : Silent s.ensureExists :=
  (silent_onDisk _).bind fun _ => (silent_onDisk _).bind fun made => by
    cases made with
    | true => exact (silent_log _ _ _).bind fun _ => silent_pure true
    | false => exact silent_pure false

theorem silent_grant (container kind value : String) : Silent (s.grant container kind value) := by
  intro w
  rw [run_grant]
  cases grantOf container kind value with
  | error e => exact Ran.refl w
  | ok r =>
    simp only
    generalize (DiskM.makeDirs s.path.parent 0o777 true).run w.disk = x
    obtain ⟨e | u, d⟩ := x
    · exact ran_disk w d
    · simp only
      generalize (DiskM.appendLine s.path r.line).run d = y
      obtain ⟨e | u, d'⟩ := y
      · exact ran_disk w d'
      · exact (ran_disk w d').quiet (ran_noted _ _)

/-- A call with the texts that it is made with. -/
inductive Call
  | ensure
  | grant (container kind value : String)
  | revoke (container kind : String)
  | list (container : String)
  | records
  | containers
deriving DecidableEq, Repr

/-- What a call gives that is not refused. -/
inductive Answer
  | made (new : Bool)
  | granted (r : Record)
  | revoked (count : Nat)
  | found (rs : List Record)
  | named (names : List String)
deriving DecidableEq, Repr

/-- The answer to a call, and the world it leads to. -/
def perform (s : Store) (w : World) : Call → Except Fault Answer × World
  | .ensure => (s.ensureExists.run w).map (·.map .made) id
  | .grant container kind value => ((s.grant container kind value).run w).map (·.map .granted) id
  | .revoke container kind => ((s.revoke container kind).run w).map (·.map .revoked) id
  | .list container => ((s.list container).run w).map (·.map .found) id
  | .records => (s.records.run w).map (·.map .found) id
  | .containers => (s.containers.run w).map (·.map .named) id

/-- The answers to a series of calls, and the world it leads to. A refused call does not keep the
others from being made. -/
def performAll (s : Store) (w : World) : List Call → List (Except Fault Answer) × World
  | [] => ([], w)
  | call :: calls =>
    let (answer, w') := s.perform w call
    let (answers, w'') := performAll s w' calls
    (answer :: answers, w'')

theorem performAll_cons (call : Call) (calls : List Call) :
    s.performAll w (call :: calls) =
      ((s.perform w call).1 :: (s.performAll (s.perform w call).2 calls).1,
        (s.performAll (s.perform w call).2 calls).2) := rfl

/-- What a call that only reads makes of the text of the file. -/
def Call.reading? : Call → Option (String → Answer)
  | .list container => some fun t => .found ((grantsIn t).filter (·.container = container))
  | .records => some fun t => .found (grantsIn t)
  | .containers => some fun t => .named ((grantsIn t).map Record.container).eraseDups
  | _ => none

/-- It answers from the text, and leaves the tree. -/
theorem perform_of_reading {call : Call} {answer : String → Answer}
    (h : call.reading? = some answer) :
    (s.perform w call).1 = ((w.disk.textAt s.path).mapError Fault.disk).map answer ∧
      (s.perform w call).2.disk = w.disk := by
  cases call with
  | list container =>
    obtain rfl := Option.some.inj h
    obtain ⟨w', hw', hrun⟩ := run_list s w container
    rw [perform, hrun]
    exact ⟨by cases w.disk.textAt s.path <;> rfl, hw'⟩
  | records =>
    obtain rfl := Option.some.inj h
    obtain ⟨w', hw', hrun⟩ := run_records s w
    rw [perform, hrun]
    exact ⟨by cases w.disk.textAt s.path <;> rfl, hw'⟩
  | containers =>
    obtain rfl := Option.some.inj h
    obtain ⟨w', hw', hrun⟩ := run_containers s w
    rw [perform, hrun]
    exact ⟨by cases w.disk.textAt s.path <;> rfl, hw'⟩
  | _ => cases h

/-- What a call does to the tree depends on the tree alone. -/
theorem disk_perform_congr {w' : World} (h : w'.disk = w.disk) (call : Call) :
    (s.perform w' call).2.disk = (s.perform w call).2.disk := by
  have hreads {answer : String → Answer} (hr : call.reading? = some answer) :
      (s.perform w' call).2.disk = (s.perform w call).2.disk := by
    rw [(s.perform_of_reading w hr).2, (s.perform_of_reading w' hr).2, h]
  cases call with
  | ensure =>
    rw [perform, perform, run_ensureExists, run_ensureExists, h]
    generalize (DiskM.makeDirs s.path.parent 0o777 true).run w.disk = x
    obtain ⟨e | u, d⟩ := x
    · rfl
    · simp only
      generalize (DiskM.writeNew s.path heading 0o644).run d = y
      obtain ⟨e | u, d'⟩ := y
      · cases e <;> rfl
      · simp only [Prod.map, id, World.disk_noted]
  | grant container kind value =>
    rw [perform, perform, run_grant, run_grant, h]
    cases grantOf container kind value with
    | error e => exact h
    | ok r =>
      simp only
      generalize (DiskM.makeDirs s.path.parent 0o777 true).run w.disk = x
      obtain ⟨e | u, d⟩ := x
      · rfl
      · simp only
        generalize (DiskM.appendLine s.path r.line).run d = y
        obtain ⟨e | u, d'⟩ := y
        · rfl
        · simp only [Prod.map, id, World.disk_noted]
  | revoke container kind =>
    rw [perform, perform, run_revoke, run_revoke, h]
    cases Kind.parse kind with
    | error e => exact h
    | ok k =>
      simp only
      cases w.disk.textAt s.path with
      | error e => exact h
      | ok t =>
        by_cases hc : countIn container k t = 0
        · simp only [if_pos hc]
          exact h
        · simp only [if_neg hc]
          generalize (DiskM.replace s.path (without container k t)).run w.disk = x
          obtain ⟨e | u, d⟩ := x
          · rfl
          · simp only [Prod.map, id, World.disk_noted]
  | list container => exact hreads rfl
  | records => exact hreads rfl
  | containers => exact hreads rfl

theorem disk_performAll_congr {w' : World} (h : w'.disk = w.disk) (calls : List Call) :
    (s.performAll w' calls).2.disk = (s.performAll w calls).2.disk := by
  induction calls generalizing w w' with
  | nil => exact h
  | cons call calls ih =>
    rw [performAll_cons, performAll_cons]
    exact ih _ (disk_perform_congr s w h call)

theorem performAll_append (as bs : List Call) :
    (s.performAll w (as ++ bs)).2 = (s.performAll (s.performAll w as).2 bs).2 := by
  induction as generalizing w with
  | nil => rfl
  | cons call as ih =>
    rw [List.cons_append, performAll_cons, performAll_cons]
    exact ih _

end BoxWarden.Store
