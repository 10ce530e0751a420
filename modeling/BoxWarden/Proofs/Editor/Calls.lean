import BoxWarden.Proofs.Editor.Run

/-!
What the editor does to the file: what the calls of the store that its actions stand for would do,
and nothing else. An action that is rejected leaves a message.
-/

namespace BoxWarden

namespace Editor

open Session

/-- The call of the store that an action makes, going by its result: a grant that has not been
rejected, or the revocation of a row. -/
def callOf (e : Editor) (a : Action) (e' : Editor) : Option Store.Call :=
  match a with
  | .grant kind value =>
    if e'.statusIsError then none
    else e.selected?.map fun c => .grant c (kind.getD e.kind).name (Text.trim value)
  | .revoke row => e.rows[row]?.map fun r => .revoke r.container r.kind.name
  | _ => none

/-- The calls that a series of actions makes, in order. -/
def callsOf (env : Environment) (e : Editor) (w : World) : List Action → List Store.Call
  | [] => []
  | a :: actions =>
    match (act env e a).run w with
    | (.ok e', w') => (callOf e a e').toList ++ callsOf env e' w' actions
    | (.error _, _) => []

variable {env : Environment} {s : Store} {e e' : Editor} {w w' : World}

/-- An action does to the tree what its call does. -/
theorem Acted.disk {a : Action} (h : Acted env e w a e' w') :
    w'.disk = (e.store.performAll w (callOf e a e').toList).2.disk := by
  cases h with
  | @rejected a m w' hm hw' =>
    have hnone : callOf e a ((e.typed a).say m true) = none := by
      cases a with
      | submitContainer text => rfl
      | grant kind value => rfl
      | revoke row => cases hm
      | pick index => cases hm
    rw [hnone]
    exact hw'
  | submitted hname hrun => exact (refresh_ok hrun).1
  | @granted kind value c r w₁ w' e' hc hvalue hgrant hrun =>
    have hcall : callOf e (.grant kind value) e' =
        some (.grant c (kind.getD e.kind).name (Text.trim value)) := by
      have hstatus : e'.statusIsError = false := by rw [refresh_frame hrun]; rfl
      simp [callOf, hstatus, hc]
    rw [hcall, (refresh_ok hrun).1]
    change _ = (e.store.perform w (.grant c (kind.getD e.kind).name (Text.trim value))).2.disk
    rw [Store.perform, hgrant]
    rfl
  | @revoked row n r w₁ w' e' hr hrevoke hrun =>
    have hcall : callOf e (.revoke row) e' = some (.revoke r.container r.kind.name) := by
      simp [callOf, hr]
    rw [hcall, (refresh_ok hrun).1]
    change _ = (e.store.perform w (.revoke r.container r.kind.name)).2.disk
    rw [Store.perform, hrevoke]
    rfl
  | picked hname hrun => exact (refresh_ok hrun).1
  | @noRow row hr =>
    have hcall : callOf e (.revoke row) e = none := by simp [callOf, hr]
    rw [hcall]
    rfl
  | noName hname => rfl

/-- A series of actions does to the tree what its calls do, one after another. -/
theorem disk_play {actions : List Action} (he : e.store = s)
    (h : (play env e (actions.map .act)).run w = (.ok e', w')) :
    w'.disk = (s.performAll w (callsOf env e w actions)).2.disk := by
  induction actions generalizing e w with
  | nil =>
    cases h
    rfl
  | cons a actions ih =>
    rw [List.map_cons, play_cons] at h
    obtain ⟨e₁, w₁, hstep, hrest⟩ := exists_of_run_bind_ok h
    have hact : (act env e a).run w = (.ok e₁, w₁) := hstep
    have hacted := acted_of_act hact
    have hstore : e₁.store = s := (hacted.isOn ⟨he, rfl, rfl⟩).store
    have hcalls : callsOf env e w (a :: actions) =
        (callOf e a e₁).toList ++ callsOf env e₁ w₁ actions := by
      rw [callsOf, hact]
    rw [ih hstore hrest, hcalls, Store.performAll_append]
    exact Store.disk_performAll_congr s _ (he ▸ hacted.disk) _

/-- A grant to a container that can exist is rejected for its value alone. -/
theorem complaint?_grant_eq_none_iff_of_selected {kind : Option Kind} {value : String}
    (hc : ∀ c, e.selected? = some c → isContainerName c = true) :
    e.complaint? (.grant kind value) = none ↔ ¬ (e.selected? = none ∨ Text.trim value = "" ∨
      ∃ ch ∈ (Text.trim value).toList, Text.isBoundary ch = true) := by
  have hline : Store.fitsLine (Text.trim value) = true ↔
      ¬ ∃ ch ∈ (Text.trim value).toList, Text.isBoundary ch = true := by
    rw [Store.fitsLine_eq_true_iff]
    simp
  rw [complaint?_grant_eq_none_iff, not_or, not_or, ← hline]
  constructor
  · rintro ⟨c, r, hsel, hvalue, hr⟩
    obtain ⟨-, -, hrvalue, -, hfits⟩ := Store.grantOf_eq_ok_iff.mp hr
    exact ⟨by simp [hsel], hvalue, hrvalue ▸ hfits⟩
  · rintro ⟨hselected, hvalue, hfits⟩
    obtain ⟨c, hsel⟩ := Option.isSome_iff_exists.mp (Option.isSome_iff_ne_none.mpr hselected)
    refine ⟨c, ⟨c, kind.getD e.kind, Text.trim value⟩, hsel, hvalue, ?_⟩
    exact Store.grantOf_eq_ok_iff.mpr ⟨rfl, rfl, rfl, hc c hsel, hfits⟩

/-- What an action comes to, by its kind. The error status is set exactly if a container or a grant is
rejected, and then nothing else is changed but what was typed; a row or a name that is not there does
nothing. -/
def Judged (e : Editor) (w : World) (e' : Editor) (w' : World) : Action → Prop
  | .submitContainer text =>
    (e'.statusIsError = true ↔ isContainerName (Text.trim text) = false) ∧ w'.disk = w.disk ∧
      (e'.statusIsError = true →
        e' = { e with containerField := text, status := e'.status, statusIsError := true }) ∧
      (e'.statusIsError = false → e'.container = some (Text.trim text) ∧
        e'.containerField = Text.trim text ∧ e'.status = "Editing " ++ Text.trim text ∧
          e'.kind = e.kind ∧ e'.valueField = e.valueField)
  | .grant kind value =>
    (e'.statusIsError = true ↔ e.selected? = none ∨ Text.trim value = "" ∨
        ∃ ch ∈ (Text.trim value).toList, Text.isBoundary ch = true) ∧
      (e'.statusIsError = true → w'.disk = w.disk ∧ e' = { e with
        kind := kind.getD e.kind, valueField := value, status := e'.status, statusIsError := true }) ∧
      (e'.statusIsError = false → e'.container = e.container ∧
        e'.containerField = e.containerField ∧ e'.kind = kind.getD e.kind ∧ e'.valueField = "" ∧
          ∃ c, e.selected? = some c ∧ e'.status =
            "Granted " ++ Record.line ⟨c, kind.getD e.kind, Text.trim value⟩)
  | .revoke row => match e.rows[row]? with
    | none => e' = e ∧ w' = w
    | some r => e'.statusIsError = false ∧ e'.container = e.container ∧
      e'.containerField = e.containerField ∧ e'.kind = e.kind ∧ e'.valueField = e.valueField ∧
        ∃ n : Nat, e'.status = "Revoked " ++ toString n ++ " " ++ r.kind.name ++
          " record(s) from " ++ r.container
  | .pick index => match e.names[index]? with
    | none => e' = e ∧ w' = w
    | some name => w'.disk = w.disk ∧ e'.container = some name ∧ e'.containerField = name ∧
      e'.status = e.status ∧ e'.statusIsError = e.statusIsError ∧ e'.kind = e.kind ∧
        e'.valueField = e.valueField

theorem Acted.judged {a : Action} (h : Acted env e w a e' w')
    (hc : ∀ c, e.selected? = some c → isContainerName c = true) : Judged e w e' w' a := by
  cases h with
  | @rejected a m w' hm hw' =>
    cases a with
    | submitContainer text =>
      have hname : ¬ isContainerName (Text.trim text) = true := by
        rw [← complaint?_submitContainer_eq_none_iff (e := e), hm]
        simp
      rw [Bool.not_eq_true] at hname
      exact ⟨iff_of_true rfl hname, hw', fun _ => rfl, fun h => absurd h (by simp [say])⟩
    | grant kind value =>
      have hbad : ¬ e.complaint? (.grant kind value) = none := by
        rw [hm]
        simp
      rw [complaint?_grant_eq_none_iff_of_selected hc, Classical.not_not] at hbad
      exact ⟨iff_of_true rfl hbad, fun _ => ⟨hw', rfl⟩, fun h => absurd h (by simp [say])⟩
    | revoke row => cases hm
    | pick index => cases hm
  | @submitted text e' w' hname hrun =>
    refine ⟨by simp [say, hname], (refresh_ok hrun).1, fun h => absurd h (by simp [say]),
      fun _ => ?_⟩
    rw [refresh_frame hrun]
    exact ⟨rfl, rfl, rfl, rfl, rfl⟩
  | @granted kind value c r w₁ w' e' hsel hvalue hgrant hrun =>
    have hof := Store.grantOf_of_grant e.store w hgrant
    have hgood := (complaint?_grant_eq_none_iff_of_selected hc).mp
      (complaint?_grant_eq_none_iff.mpr ⟨c, r, hsel, hvalue, hof⟩)
    have hr : r = ⟨c, kind.getD e.kind, Text.trim value⟩ := by
      obtain ⟨hcontainer, hkind, hrvalue, -⟩ := Store.grantOf_eq_ok_iff.mp hof
      rw [← hcontainer, ← Kind.name_injective hkind, ← hrvalue]
    have hstatus : e'.statusIsError = false := by rw [refresh_frame hrun]; rfl
    refine ⟨iff_of_false (by simp [hstatus]) hgood, fun h => absurd h (by simp [hstatus]),
      fun _ => ?_⟩
    rw [refresh_frame hrun, hr]
    exact ⟨rfl, rfl, rfl, rfl, c, hsel, rfl⟩
  | @revoked row n r w₁ w' e' hr hrevoke hrun =>
    simp only [Judged, hr]
    rw [refresh_frame hrun]
    exact ⟨rfl, rfl, rfl, rfl, rfl, n, rfl⟩
  | @picked index name e' w' hname hrun =>
    simp only [Judged, hname]
    refine ⟨(refresh_ok hrun).1, ?_⟩
    rw [refresh_frame hrun]
    exact ⟨rfl, rfl, rfl, rfl, rfl, rfl⟩
  | @noRow row hr => simp [Judged, hr]
  | noName hname => simp [Judged, hname]

/-- The editor does to the file what the store would. Over any run, the tree ends up as the calls that
its actions stand for leave it: the grants that were not rejected and the revocations of rows, in
order. As long as the file is fit for the editor, every action goes through, is rejected exactly for
what it should be, and is rejected without a trace but the message. -/
theorem edits_are_calls (env : Environment) (s : Store) (container : Option String)
    (host : Option Host) (image : Option String) (w : World) :
    (∀ e w₀, (start env s container host image).run w = (.ok e, w₀) →
      ∀ (actions : List Action) e' w', (play env e (actions.map .act)).run w₀ = (.ok e', w') →
        w'.disk = (s.performAll w (callsOf env e w₀ actions)).2.disk) ∧
    ∀ dir, Homes.dir env = .ok dir → s.Editable w.disk →
      (∀ c, nonEmpty? container = some c → isContainerName c = true) →
      ∃ e w₀, (start env s container host image).run w = (.ok e, w₀) ∧
        ∀ actions : List Action, ∃ e' w', (play env e (actions.map .act)).run w₀ = (.ok e', w') ∧
          ∀ a, ∃ e'' w'', (act env e' a).run w' = (.ok e'', w'') ∧ Judged e' w' e'' w'' a := by
  refine ⟨fun e w₀ hstart actions e' w' hplay => ?_, fun dir hdir hs hc => ?_⟩
  · obtain ⟨hw₀, t, -, hshow⟩ := start_ok hstart
    have hstore : e.store = s := by rw [showing_frame hshow]; rfl
    rw [disk_play hstore hplay]
    exact Store.disk_performAll_congr s w hw₀ _
  · obtain ⟨e, w₀, hstart, hsound⟩ := start_sound hdir hs hc host image
    refine ⟨e, w₀, hstart, fun actions => ?_⟩
    have hsteps : ∀ d, .rewrite d ∈ actions.map Step.act → s.Editable d := by simp
    obtain ⟨e', w', hplay, hsound'⟩ := play_sound hdir hsound hsteps
    refine ⟨e', w', hplay, fun a => ?_⟩
    obtain ⟨e'', w'', hact, -⟩ := act_sound hdir hsound' a
    exact ⟨e'', w'', hact, (acted_of_act hact).judged hsound'.selected⟩

theorem edits_are_calls_desk :
    let env : Environment := { home := "/home/me" }
    let w : World := { disk := Store.desk }
    let actions : List Action := [.grant none " /srv ", .revoke 0, .pick 0]
    Store.deskStore.Editable w.disk ∧ Homes.dir env = .ok ⟨.slash,
        ["home", "me", ".local", "share", "distrobox-secure", "homes"]⟩ ∧
      ∃ e w₀ e' w', (start env Store.deskStore (some "web") none none).run w = (.ok e, w₀) ∧
        (play env e (actions.map .act)).run w₀ = (.ok e', w') ∧
        w'.disk = (Store.deskStore.performAll w (callsOf env e w₀ actions)).2.disk ∧
        ∃ e'' w'', (act env e' (.grant none "a\nweb:privileged:1")).run w' = (.ok e'', w'') ∧
          e''.statusIsError = true ∧ w''.disk = w'.disk := by
  intro env w actions
  have hweb : ∀ c, nonEmpty? (some "web") = some c → isContainerName c = true := by
    intro c hc
    obtain rfl : "web" = c := (Option.filter_eq_some_iff.mp hc).1 |> Option.some.inj
    decide
  refine ⟨Store.editable_desk, Homes.dir_desk, ?_⟩
  obtain ⟨hdisk, hruns⟩ := edits_are_calls env Store.deskStore (some "web") none none w
  obtain ⟨e, w₀, hstart, hplays⟩ := hruns _ Homes.dir_desk Store.editable_desk hweb
  obtain ⟨e', w', hplay, hactions⟩ := hplays actions
  obtain ⟨e'', w'', hact, hrejected, hleft, -⟩ := hactions (.grant none "a\nweb:privileged:1")
  have herror : e''.statusIsError = true :=
    hrejected.mpr (.inr (.inr ⟨'\n', by decide, by decide⟩))
  exact ⟨e, w₀, e', w', hstart, hplay, hdisk e w₀ hstart actions e' w' hplay, e'', w'', hact, herror,
    (hleft herror).1⟩

end Editor

end BoxWarden
