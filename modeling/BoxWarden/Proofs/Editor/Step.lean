import BoxWarden.Editor
import BoxWarden.Proofs.Command.Plan
import BoxWarden.Proofs.Store.Refusal

/-!
One action of the editor, opened once: what it asks of the store, what it renews, and what it leaves
as it was.
-/

namespace BoxWarden.Editor

open Session

/-- The selected container comes last, unless it has grants. -/
theorem pickable_eq (known : List String) (c : Option String) :
    pickable known c = known ++ (c.filter (· ∉ known)).toList := by
  cases c with
  | none => simp [pickable]
  | some c => by_cases hc : c ∈ known <;> simp [pickable, Option.filter, hc]

/-- The editor as it shows a text, if the home of the selected container is known. -/
def showing (env : Environment) (e : Editor) (t : String) : Except Fault Editor :=
  let names := pickable ((Store.grantsIn t).map Record.container).eraseDups e.selected?
  match e.selected? with
  | none => .ok { e with
      names := names, rows := [], notice := false, title := "No container selected"
      plan := none, preview := "" }
  | some c => (Homes.home env c).map fun home =>
      let rows := (Store.grantsIn t).filter (·.container = c)
      let plan := Plan.ofRecords c e.image home e.host rows
      { e with
        names := names, rows := rows, notice := rows = []
        title := c ++ ": " ++ toString rows.length ++ " record(s)"
        plan := some plan
        preview := BoxWarden.preview plan.command plan.compiled.colouredSummary }

/-- If the name of the selected container is one, every text can be shown. -/
theorem exists_showing {env : Environment} {dir : Path} (hdir : Homes.dir env = .ok dir)
    {e : Editor} (hc : ∀ c, e.selected? = some c → isContainerName c = true) (t : String) :
    ∃ e', e.showing env t = .ok e' ∧
      e'.names = pickable ((Store.grantsIn t).map Record.container).eraseDups e.selected? := by
  rw [showing]
  cases hsel : e.selected? with
  | none => exact ⟨_, rfl, rfl⟩
  | some c =>
    have hhome : Homes.home env c = .ok (dir.child c) := by
      rw [Homes.home_of_isContainerName (hc c hsel), hdir]
      rfl
    simp only [hhome]
    exact ⟨_, rfl, rfl⟩

/-- A renewal shows the text of the file, and changes nothing in the tree. -/
theorem run_refresh (env : Environment) (e : Editor) (w : World) : ∃ w', w'.disk = w.disk ∧
    (refresh env e).run w =
      (((w.disk.textAt e.store.path).mapError Fault.disk).bind (e.showing env), w') := by
  obtain ⟨w₁, hw₁, hnames⟩ := e.store.run_containers w
  cases ht : w.disk.textAt e.store.path with
  | error f =>
    rw [ht] at hnames
    exact ⟨w₁, hw₁, by rw [refresh, run_bind_error hnames]; rfl⟩
  | ok t =>
    rw [ht] at hnames
    change ∃ w', w'.disk = w.disk ∧ (refresh env e).run w = (e.showing env t, w')
    rw [refresh, run_bind_ok hnames, showing]
    cases hc : e.selected? with
    | none => exact ⟨w₁, hw₁, rfl⟩
    | some c =>
      obtain ⟨w₂, hw₂, hrows⟩ := e.store.run_list w₁ c
      rw [hw₁, ht] at hrows
      have ht₂ : w₂.disk.textAt e.store.path = .ok t := by rw [hw₂, hw₁, ht]
      obtain ⟨w₃, hw₃, hplan⟩ := Plan.run_make env e.store c e.image (some e.host) ht₂
      simp only
      rw [run_bind_ok hrows, run_bind, hplan]
      refine ⟨w₃, hw₃.trans (hw₂.trans hw₁), ?_⟩
      cases Homes.home env c <;> rfl

theorem exists_of_mapError_bind {α β : Type} {x : Except DiskError α} {f : α → Except Fault β} {b : β}
    (h : (x.mapError Fault.disk).bind f = .ok b) : ∃ a, x = .ok a ∧ f a = .ok b := by
  cases x with
  | error e => cases h
  | ok a => exact ⟨a, rfl, h⟩

/-- What a renewal shows is the text of the file. -/
theorem refresh_ok {env : Environment} {e e' : Editor} {w w' : World}
    (h : (refresh env e).run w = (.ok e', w')) :
    w'.disk = w.disk ∧ ∃ t, w.disk.textAt e.store.path = .ok t ∧ e.showing env t = .ok e' := by
  obtain ⟨w₁, hw₁, hrun⟩ := run_refresh env e w
  rw [h, Prod.mk.injEq] at hrun
  obtain ⟨hrun, rfl⟩ := hrun
  exact ⟨hw₁, exists_of_mapError_bind hrun.symm⟩

/-- Only what is shown of the file is touched. -/
theorem showing_frame {env : Environment} {e e' : Editor} {t : String}
    (h : e.showing env t = .ok e') :
    e' = { e with
      names := e'.names, rows := e'.rows, notice := e'.notice, title := e'.title
      plan := e'.plan, preview := e'.preview } := by
  rw [showing] at h
  cases hc : e.selected? with
  | none =>
    simp only [hc] at h
    rw [← Except.ok.inj h]
  | some c =>
    simp only [hc] at h
    cases hhome : Homes.home env c with
    | error f =>
      rw [hhome] at h
      cases h
    | ok home =>
      rw [hhome] at h
      rw [← Except.ok.inj h]

theorem refresh_frame {env : Environment} {e e' : Editor} {w w' : World}
    (h : (refresh env e).run w = (.ok e', w')) :
    e' = { e with
      names := e'.names, rows := e'.rows, notice := e'.notice, title := e'.title
      plan := e'.plan, preview := e'.preview } := by
  obtain ⟨-, t, -, hshow⟩ := refresh_ok h
  exact showing_frame hshow

/-- The editor with what an action puts into its fields. -/
def typed (e : Editor) : Action → Editor
  | .submitContainer text => { e with containerField := text }
  | .grant kind value => { e with kind := kind.getD e.kind, valueField := value }
  | _ => e

/-- The editor with a container selected. -/
def choosing (e : Editor) (name : String) : Editor :=
  { e with container := some name, containerField := name }

theorem selected?_choosing (e : Editor) {name : String} (hname : isContainerName name = true) :
    (e.choosing name).selected? = some name := by
  have hne : name ≠ "" := by
    rintro rfl
    cases hname
  simp [selected?, choosing, nonEmpty?, Option.filter, hne]

/-- Why an action is rejected, if it is. -/
def complaint? (e : Editor) : Action → Option String
  | .submitContainer text =>
    match checkName (Text.trim text) with
    | .error f => some f.message
    | .ok _ => none
  | .grant kind value =>
    match e.selected? with
    | none => some "Enter a container name first"
    | some c =>
      if Text.trim value = "" then some "Enter a value to grant"
      else match Store.grantOf c (kind.getD e.kind).name (Text.trim value) with
        | .error f => some f.message
        | .ok _ => none
  | _ => none

theorem complaint?_submitContainer_eq_none_iff {e : Editor} {text : String} :
    e.complaint? (.submitContainer text) = none ↔ isContainerName (Text.trim text) = true := by
  simp only [complaint?, checkName]
  by_cases hname : isContainerName (Text.trim text) = true <;> simp [hname]

theorem complaint?_grant_eq_none_iff {e : Editor} {kind : Option Kind} {value : String} :
    e.complaint? (.grant kind value) = none ↔ ∃ c r, e.selected? = some c ∧
      Text.trim value ≠ "" ∧
        Store.grantOf c (kind.getD e.kind).name (Text.trim value) = .ok r := by
  simp only [complaint?]
  cases hc : e.selected? with
  | none => simp
  | some c =>
    by_cases hvalue : Text.trim value = ""
    · simp [hvalue]
    · cases hr : Store.grantOf c (kind.getD e.kind).name (Text.trim value) with
      | error f => simp [hvalue, hr]
      | ok r => simp [hvalue, hr]

/-- What an action that goes through has done. A rejected one has left a message; any other has
called the store, if it has to, and renewed what is shown. -/
inductive Acted (env : Environment) (e : Editor) (w : World) : Action → Editor → World → Prop
  | rejected {a : Action} {m : String} {w' : World} (hm : e.complaint? a = some m)
      (hw' : w'.disk = w.disk) : Acted env e w a ((e.typed a).say m true) w'
  | submitted {text : String} {e' : Editor} {w' : World}
      (hname : isContainerName (Text.trim text) = true)
      (hrun : (refresh env (e.choosing (Text.trim text))).run w = (.ok e', w')) :
      Acted env e w (.submitContainer text) (e'.say ("Editing " ++ Text.trim text) false) w'
  | granted {kind : Option Kind} {value c : String} {r : Record} {w₁ w' : World} {e' : Editor}
      (hc : e.selected? = some c) (hvalue : Text.trim value ≠ "")
      (hgrant : (e.store.grant c (kind.getD e.kind).name (Text.trim value)).run w = (.ok r, w₁))
      (hrun : (refresh env ({ e.typed (.grant kind value) with valueField := "" }.say
        ("Granted " ++ r.line) false)).run w₁ = (.ok e', w')) :
      Acted env e w (.grant kind value) e' w'
  | revoked {row n : Nat} {r : Record} {w₁ w' : World} {e' : Editor} (hr : e.rows[row]? = some r)
      (hrevoke : (e.store.revoke r.container r.kind.name).run w = (.ok n, w₁))
      (hrun : (refresh env (e.say ("Revoked " ++ toString n ++ " " ++ r.kind.name ++
        " record(s) from " ++ r.container) false)).run w₁ = (.ok e', w')) :
      Acted env e w (.revoke row) e' w'
  | picked {index : Nat} {name : String} {e' : Editor} {w' : World}
      (hname : e.names[index]? = some name)
      (hrun : (refresh env (e.choosing name)).run w = (.ok e', w')) :
      Acted env e w (.pick index) e' w'
  | noRow {row : Nat} (hr : e.rows[row]? = none) : Acted env e w (.revoke row) e w
  | noName {index : Nat} (hname : e.names[index]? = none) : Acted env e w (.pick index) e w

theorem run_inBackground (m : Session Editor) (w : World) :
    (inBackground m).run w = match m.run w with
      | (.ok e, w') => (.ok e, w')
      | (.error f, w') => (.error (.background f), w') := by
  rw [inBackground, run_tryCatch]
  generalize m.run w = x
  obtain ⟨e | f, w'⟩ := x <;> rfl

variable (env : Environment) {e e' : Editor} {w w' : World}

theorem run_submitGrant {c : String} (hc : e.selected? = some c)
    (hvalue : Text.trim e.valueField ≠ "") (w : World) :
    (submitGrant env e).run w =
      match (e.store.grant c e.kind.name (Text.trim e.valueField)).run w with
      | (.ok r, w₁) =>
        (refresh env ({ e with valueField := "" }.say ("Granted " ++ r.line) false)).run w₁
      | (.error f, w₁) =>
        if f.isRefusal then (.ok (e.say f.message true),
          w₁.noted ⟨.info, source, "Grant rejected: " ++ f.message⟩)
        else (.error f, w₁) := by
  rw [submitGrant, hc]
  simp only [if_neg hvalue]
  rw [run_bind, run_tryCatch, run_map]
  generalize (e.store.grant c e.kind.name (Text.trim e.valueField)).run w = x
  obtain ⟨f | r, w₁⟩ := x
  · simp only
    by_cases hf : f.isRefusal = true
    · rw [if_pos hf, if_pos hf]
      simp only [run_pure, run_bind, run_log]
    · rw [if_neg hf, if_neg hf]
      rfl
  · rfl

/-- A rejected action leaves a message and nothing else. -/
theorem act_rejected {a : Action} {m : String} (hm : e.complaint? a = some m) (w : World) :
    ∃ w' : World, w'.disk = w.disk ∧ (act env e a).run w = (.ok ((e.typed a).say m true), w') := by
  cases a with
  | submitContainer text =>
    simp only [complaint?] at hm
    cases hn : checkName (Text.trim text) with
    | ok name => simp [hn] at hm
    | error f =>
      rw [hn, Option.some.injEq] at hm
      refine ⟨w, rfl, ?_⟩
      simp only [act, hn, ← hm]
      rfl
  | grant kind value =>
    have hact : act env e (.grant kind value) = submitGrant env (e.typed (.grant kind value)) := rfl
    have hselected : (e.typed (.grant kind value)).selected? = e.selected? := rfl
    simp only [complaint?] at hm
    rw [hact]
    cases hc : e.selected? with
    | none =>
      rw [hc, Option.some.injEq] at hm
      refine ⟨w, rfl, ?_⟩
      rw [submitGrant, hselected, hc, ← hm]
      rfl
    | some c =>
      simp only [hc] at hm
      by_cases hvalue : Text.trim value = ""
      · rw [if_pos hvalue, Option.some.injEq] at hm
        have hvalue' : Text.trim (e.typed (.grant kind value)).valueField = "" := hvalue
        refine ⟨w, rfl, ?_⟩
        rw [submitGrant, hselected, hc, ← hm]
        simp only [if_pos hvalue']
        rfl
      · rw [if_neg hvalue] at hm
        cases hr : Store.grantOf c (kind.getD e.kind).name (Text.trim value) with
        | ok r => simp [hr] at hm
        | error f =>
          rw [hr, Option.some.injEq] at hm
          have hgrant : (e.store.grant c (kind.getD e.kind).name (Text.trim value)).run w =
              (.error f, w) := by rw [Store.run_grant, hr]
          have hrun := run_submitGrant env (e := e.typed (.grant kind value)) hc hvalue w
          refine ⟨w.noted ⟨.info, source, "Grant rejected: " ++ f.message⟩, World.disk_noted _ _,
            hrun.trans ?_⟩
          simp only [typed, hgrant, Store.isRefusal_of_grantOf hr, if_true, hm]
  | revoke row => simp [complaint?] at hm
  | pick index => simp [complaint?] at hm

theorem act_submitContainer {text : String} (hname : isContainerName (Text.trim text) = true)
    (w : World) :
    (act env e (.submitContainer text)).run w =
      match (refresh env (e.choosing (Text.trim text))).run w with
      | (.ok e', w') => (.ok (e'.say ("Editing " ++ Text.trim text) false), w')
      | (.error f, w') => (.error f, w') := by
  have hcheck : checkName (Text.trim text) = .ok (Text.trim text) := by rw [checkName, if_pos hname]
  have hselect : select env { e with containerField := text } (Text.trim text) =
      refresh env (e.choosing (Text.trim text)) := rfl
  simp only [act, hcheck, hselect]
  rw [run_bind]
  generalize (refresh env (e.choosing (Text.trim text))).run w = x
  obtain ⟨f | e₁, w₁⟩ := x <;> rfl

theorem act_grant {kind : Option Kind} {value c : String} {r : Record} (hc : e.selected? = some c)
    (hvalue : Text.trim value ≠ "")
    (hr : Store.grantOf c (kind.getD e.kind).name (Text.trim value) = .ok r) (w : World) :
    (act env e (.grant kind value)).run w =
      match (e.store.grant c (kind.getD e.kind).name (Text.trim value)).run w with
      | (.ok _, w₁) => (refresh env ({ e.typed (.grant kind value) with valueField := "" }.say
          ("Granted " ++ r.line) false)).run w₁
      | (.error f, w₁) => (.error f, w₁) := by
  have hrun : (act env e (.grant kind value)).run w = _ :=
    run_submitGrant env (e := e.typed (.grant kind value)) hc hvalue w
  rw [hrun]
  simp only [typed]
  rw [Store.run_grant, hr]
  simp only
  generalize (DiskM.makeDirs e.store.path.parent 0o777 true).run w.disk = x
  obtain ⟨f | u, d⟩ := x
  · rfl
  · simp only
    generalize (DiskM.appendLine e.store.path r.line).run d = y
    obtain ⟨f | u, d'⟩ := y <;> rfl

theorem act_revoke {row : Nat} {r : Record} (hr : e.rows[row]? = some r) (w : World) :
    (act env e (.revoke row)).run w =
      match (e.store.revoke r.container r.kind.name).run w with
      | (.ok n, w₁) => (inBackground (refresh env (e.say ("Revoked " ++ toString n ++ " " ++
          r.kind.name ++ " record(s) from " ++ r.container) false))).run w₁
      | (.error f, w₁) => (.error f, w₁) := by
  simp only [act, hr]
  rw [run_bind]
  generalize (e.store.revoke r.container r.kind.name).run w = x
  obtain ⟨f | n, w₁⟩ := x <;> rfl

theorem act_pick {index : Nat} {name : String} (hname : e.names[index]? = some name) (w : World) :
    (act env e (.pick index)).run w = (inBackground (refresh env (e.choosing name))).run w := by
  simp only [act, hname]
  rfl

variable {env}

theorem refresh_of_inBackground {e₁ : Editor}
    (h : (inBackground (refresh env e₁)).run w = (.ok e', w')) :
    (refresh env e₁).run w = (.ok e', w') := by
  rw [run_inBackground] at h
  generalize (refresh env e₁).run w = x at h ⊢
  obtain ⟨f | e₂, w₂⟩ := x
  · cases h
  · exact h

/-- An action that goes through does one of these things. -/
theorem acted_of_act {a : Action} (h : (act env e a).run w = (.ok e', w')) :
    Acted env e w a e' w' := by
  cases hm : e.complaint? a with
  | some m =>
    obtain ⟨w₁, hw₁, hrun⟩ := act_rejected env hm w
    rw [h, Prod.mk.injEq, Except.ok.injEq] at hrun
    obtain ⟨rfl, rfl⟩ := hrun
    exact .rejected hm hw₁
  | none =>
    cases a with
    | submitContainer text =>
      have hname := complaint?_submitContainer_eq_none_iff.mp hm
      rw [act_submitContainer env hname] at h
      cases hrun : (refresh env (e.choosing (Text.trim text))).run w with
      | mk x w₁ =>
        rw [hrun] at h
        cases x with
        | error f => cases h
        | ok e₁ =>
          cases h
          exact .submitted hname hrun
    | grant kind value =>
      obtain ⟨c, r, hc, hvalue, hr⟩ := complaint?_grant_eq_none_iff.mp hm
      rw [act_grant env hc hvalue hr] at h
      cases hgrant : (e.store.grant c (kind.getD e.kind).name (Text.trim value)).run w with
      | mk x w₁ =>
        rw [hgrant] at h
        cases x with
        | error f => cases h
        | ok r' =>
          have hr' := Store.grantOf_of_grant e.store w hgrant
          rw [hr, Except.ok.injEq] at hr'
          subst hr'
          exact .granted hc hvalue hgrant h
    | revoke row =>
      cases hr : e.rows[row]? with
      | none =>
        simp only [act, hr] at h
        cases h
        exact .noRow hr
      | some r =>
        rw [act_revoke env hr] at h
        cases hrevoke : (e.store.revoke r.container r.kind.name).run w with
        | mk x w₁ =>
          rw [hrevoke] at h
          cases x with
          | error f => cases h
          | ok n => exact .revoked hr hrevoke (refresh_of_inBackground h)
    | pick index =>
      cases hname : e.names[index]? with
      | none =>
        simp only [act, hname] at h
        cases h
        exact .noName hname
      | some name =>
        rw [act_pick env hname] at h
        exact .picked hname (refresh_of_inBackground h)

end BoxWarden.Editor
