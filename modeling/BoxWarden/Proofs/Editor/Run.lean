import BoxWarden.Proofs.Editor.Step

/-!
Runs of the editor, in which others may rewrite the file at any time. As long as the file can be read
and written and names containers that can exist, no action goes wrong.
-/

namespace BoxWarden

namespace Store

/-- The file of grants can be read and written, and every grant in it is to a container that can
exist. -/
def Editable (s : Store) (d : Disk) : Prop :=
  ∃ f, Holding s d f ∧ ∀ r ∈ grantsIn (f.getD ""), isContainerName r.container = true

variable {s : Store} {w w' : World}

theorem Editable.text (h : Editable s w.disk) : ∃ t, w.disk.textAt s.path = .ok t ∧
    ∀ r ∈ grantsIn t, isContainerName r.container = true := by
  obtain ⟨f, hf, hnames⟩ := h
  exact ⟨f.getD "", hf.textAt, hnames⟩

/-- Calls of the store keep its file fit for the editor. -/
theorem Editable.perform (h : Editable s w.disk) (call : Call) :
    Editable s (s.perform w call).2.disk := by
  obtain ⟨f, hf, hnames⟩ := h
  obtain ⟨-, f', hf', hledger⟩ := perform_agrees hf call
  refine ⟨f', hf', fun r hr => ?_⟩
  rw [← Ledger.grants_ofText, hledger] at hr
  rw [← Ledger.grants_ofText] at hnames
  cases call with
  | grant container kind value =>
    rw [Ledger.step] at hr
    cases hof : grantOf container kind value with
    | error e =>
      rw [hof] at hr
      exact hnames r hr
    | ok r' =>
      simp only [hof, List.mem_append, List.mem_singleton] at hr
      obtain hr | rfl := hr
      · exact hnames r hr
      · exact (grantOf_eq_ok_iff.mp hof).2.2.2.1
  | revoke container kind =>
    rw [Ledger.step] at hr
    cases hk : Kind.parse kind with
    | error e =>
      rw [hk] at hr
      exact hnames r hr
    | ok k =>
      simp only [hk] at hr
      exact hnames r (List.mem_filter.mp hr).1
  | _ => exact hnames r hr

/-- A grant that is not refused goes through. -/
theorem Editable.grant (h : Editable s w.disk) {container kind value : String} {r : Record}
    (hr : grantOf container kind value = .ok r) :
    ∃ w', (s.grant container kind value).run w = (.ok r, w') ∧ Editable s w'.disk := by
  have hkept := h.perform (.grant container kind value)
  obtain ⟨f, hf, -⟩ := h
  have hanswer := (perform_agrees hf (.grant container kind value)).1
  simp only [Store.perform, Ledger.step, hr] at hanswer hkept
  generalize (s.grant container kind value).run w = x at hanswer hkept
  obtain ⟨e | r', w'⟩ := x
  · cases hanswer
  · obtain rfl : r' = r := by simpa [Except.map] using hanswer
    exact ⟨w', rfl, hkept⟩

theorem Editable.revoke (h : Editable s w.disk) (container : String) (k : Kind) :
    ∃ n w', (s.revoke container k.name).run w = (.ok n, w') ∧ Editable s w'.disk := by
  have hkept := h.perform (.revoke container k.name)
  obtain ⟨f, hf, -⟩ := h
  have hanswer := (perform_agrees hf (.revoke container k.name)).1
  simp only [Store.perform, Ledger.step, Kind.parse_name] at hanswer hkept
  generalize (s.revoke container k.name).run w = x at hanswer hkept
  obtain ⟨e | n, w'⟩ := x
  · cases hanswer
  · exact ⟨n, w', rfl, hkept⟩

theorem editable_desk : Editable deskStore desk :=
  ⟨_, holding_desk, by decide⟩

end Store

/-- The homes of the user the desk belongs to. -/
theorem Homes.dir_desk : Homes.dir { home := "/home/me" } =
    .ok ⟨.slash, ["home", "me", ".local", "share", "distrobox-secure", "homes"]⟩ := rfl

namespace Editor

open Session

/-- The editor belongs to a store whose file is fit for it, and names containers that can exist. -/
structure Sound (s : Store) (e : Editor) (d : Disk) : Prop where
  store : e.store = s
  editable : s.Editable d
  selected : ∀ c, e.selected? = some c → isContainerName c = true
  names : ∀ n ∈ e.names, isContainerName n = true

variable {env : Environment} {s : Store} {e e' : Editor} {w w' : World} {dir : Path}

/-- A fit text can be shown, and what is shown are containers that can exist. -/
theorem showing_sound {d : Disk} {t : String} (hdir : Homes.dir env = .ok dir) (hstore : e.store = s)
    (hs : s.Editable d)
    (hnames : ∀ r ∈ Store.grantsIn t, isContainerName r.container = true)
    (hc : ∀ c, e.selected? = some c → isContainerName c = true) :
    ∃ e', e.showing env t = .ok e' ∧ Sound s e' d := by
  obtain ⟨e', hshow, hpick⟩ := exists_showing hdir hc t
  have hframe := showing_frame hshow
  refine ⟨e', hshow, ?_, hs, ?_, ?_⟩
  · rw [hframe]
    exact hstore
  · rw [hframe]
    exact hc
  · intro n hn
    rw [hpick, pickable_eq, List.mem_append, Option.mem_toList, Option.filter_eq_some_iff] at hn
    obtain hn | ⟨hn, -⟩ := hn
    · obtain ⟨r, hr, rfl⟩ := List.mem_map.mp (List.mem_eraseDups.mp hn)
      exact hnames r hr
    · exact hc n hn

theorem refresh_sound (hdir : Homes.dir env = .ok dir) (hstore : e.store = s)
    (hs : s.Editable w.disk) (hc : ∀ c, e.selected? = some c → isContainerName c = true) :
    ∃ e' w', (refresh env e).run w = (.ok e', w') ∧ Sound s e' w'.disk := by
  obtain ⟨t, ht, hnames⟩ := hs.text
  obtain ⟨w', hw', hrun⟩ := run_refresh env e w
  obtain ⟨e', hshow, hsound⟩ := showing_sound hdir hstore hs hnames hc
  rw [hstore, ht] at hrun
  exact ⟨e', w', hrun.trans (by rw [← hshow]; rfl), hw' ▸ hsound⟩

/-- What is said of an action does not matter. -/
theorem Sound.say {d : Disk} (h : Sound s e d) (message : String) (isError : Bool) :
    Sound s (e.say message isError) d := ⟨h.store, h.editable, h.selected, h.names⟩

/-- In a sound editor every action goes through and leaves the editor sound. -/
theorem act_sound (hdir : Homes.dir env = .ok dir) (h : Sound s e w.disk) (a : Action) :
    ∃ e' w', (act env e a).run w = (.ok e', w') ∧ Sound s e' w'.disk := by
  cases hm : e.complaint? a with
  | some m =>
    obtain ⟨w', hw', hrun⟩ := act_rejected env hm w
    refine ⟨_, w', hrun, ?_⟩
    rw [hw']
    obtain ⟨hstore, hs, hc, hnames⟩ := h
    cases a <;> exact ⟨hstore, hs, hc, hnames⟩
  | none =>
    cases a with
    | submitContainer text =>
      have hname := complaint?_submitContainer_eq_none_iff.mp hm
      obtain ⟨e', w', hrun, hsound⟩ := refresh_sound (e := e.choosing (Text.trim text)) hdir
        h.store h.editable (by simp [selected?_choosing e hname, hname])
      have hact := act_submitContainer env (e := e) hname w
      rw [hrun] at hact
      exact ⟨_, w', hact, hsound.say _ _⟩
    | grant kind value =>
      obtain ⟨c, r, hc, hvalue, hr⟩ := complaint?_grant_eq_none_iff.mp hm
      obtain ⟨w₁, hgrant, hs⟩ := h.editable.grant hr
      obtain ⟨e', w', hrun, hsound⟩ := refresh_sound
        (e := { e.typed (.grant kind value) with valueField := "" }.say ("Granted " ++ r.line) false)
        hdir h.store hs h.selected
      have hact := act_grant env hc hvalue hr w
      rw [h.store, hgrant] at hact
      exact ⟨e', w', hact.trans hrun, hsound⟩
    | revoke row =>
      cases hr : e.rows[row]? with
      | none => exact ⟨e, w, by simp only [act, hr]; rfl, h⟩
      | some r =>
        obtain ⟨n, w₁, hrevoke, hs⟩ := h.editable.revoke r.container r.kind
        obtain ⟨e', w', hrun, hsound⟩ := refresh_sound (e := e.say ("Revoked " ++ toString n ++ " " ++
          r.kind.name ++ " record(s) from " ++ r.container) false) hdir h.store hs h.selected
        have hact := act_revoke env hr w
        rw [h.store, hrevoke] at hact
        refine ⟨e', w', hact.trans ?_, hsound⟩
        simp only [run_inBackground, hrun]
    | pick index =>
      cases hname : e.names[index]? with
      | none => exact ⟨e, w, by simp only [act, hname]; rfl, h⟩
      | some name =>
        have hvalid := h.names name (List.mem_of_getElem? hname)
        obtain ⟨e', w', hrun, hsound⟩ := refresh_sound (e := e.choosing name) hdir h.store h.editable
          (by simp [selected?_choosing e hvalid, hvalid])
        refine ⟨e', w', (act_pick env hname w).trans ?_, hsound⟩
        simp only [run_inBackground, hrun]

/-- An editor that is about to show a text for the first time. -/
def fresh (env : Environment) (s : Store) (container : Option String) (host : Option Host)
    (image : Option String) (t : String) : Editor :=
  let c := (nonEmpty? container).orElse fun _ =>
    ((Store.grantsIn t).map Record.container).eraseDups.head?
  { store := s, host := host.getD env.host, image := (nonEmpty? image).getD env.defaultImage
    container := c, containerField := c.getD "" }

/-- Opens the editor on what it is given. -/
def start (env : Environment) (s : Store) (container : Option String) (host : Option Host)
    (image : Option String) : Session Editor := do
  mount env (← input env s container host image)

/-- An editor that opens shows the text of the file. -/
theorem run_start (env : Environment) (s : Store) (container : Option String) (host : Option Host)
    (image : Option String) (w : World) : ∃ w', w'.disk = w.disk ∧
    (start env s container host image).run w = (((w.disk.textAt s.path).mapError Fault.disk).bind
      fun t => (fresh env s container host image t).showing env t, w') := by
  obtain ⟨w₁, hw₁, hnames⟩ := s.run_containers w
  rw [start, run_bind, input, run_bind, hnames]
  cases ht : w.disk.textAt s.path with
  | error f => exact ⟨w₁, hw₁, rfl⟩
  | ok t =>
    obtain ⟨w', hw', hrun⟩ := run_refresh env (fresh env s container host image t) w₁
    have ht₁ : w₁.disk.textAt (fresh env s container host image t).store.path = .ok t := by
      rw [hw₁]
      exact ht
    rw [ht₁] at hrun
    exact ⟨w', hw'.trans hw₁, hrun⟩

theorem start_ok {container : Option String} {host : Option Host} {image : Option String}
    (h : (start env s container host image).run w = (.ok e, w')) :
    w'.disk = w.disk ∧ ∃ t, w.disk.textAt s.path = .ok t ∧
      (fresh env s container host image t).showing env t = .ok e := by
  obtain ⟨w₁, hw₁, hrun⟩ := run_start env s container host image w
  rw [h, Prod.mk.injEq] at hrun
  obtain ⟨hrun, rfl⟩ := hrun
  exact ⟨hw₁, exists_of_mapError_bind hrun.symm⟩

/-- What happens while the editor is open: an action of the user, or somebody else rewrites the
tree. -/
inductive Step
  | act (a : Action)
  | rewrite (d : Disk)

def step (env : Environment) (e : Editor) : Step → Session Editor
  | .act a => act env e a
  | .rewrite d => do
    modify fun w => { w with disk := d }
    pure e

/-- A series of steps. -/
def play (env : Environment) (e : Editor) (steps : List Step) : Session Editor :=
  steps.foldlM (step env) e

theorem play_cons (env : Environment) (e : Editor) (x : Step) (steps : List Step) :
    play env e (x :: steps) = step env e x >>= fun e' => play env e' steps := List.foldlM_cons ..

theorem start_sound (hdir : Homes.dir env = .ok dir) (hs : s.Editable w.disk)
    {container : Option String}
    (hc : ∀ c, nonEmpty? container = some c → isContainerName c = true) (host : Option Host)
    (image : Option String) :
    ∃ e w', (start env s container host image).run w = (.ok e, w') ∧ Sound s e w'.disk := by
  obtain ⟨t, ht, hnames⟩ := hs.text
  obtain ⟨w', hw', hrun⟩ := run_start env s container host image w
  have hselected : ∀ c, (fresh env s container host image t).selected? = some c →
      isContainerName c = true := by
    intro c hsel
    have hcontainer := (Option.filter_eq_some_iff.mp hsel).1
    simp only [fresh] at hcontainer
    cases hgiven : nonEmpty? container with
    | some c' =>
      rw [hgiven] at hcontainer
      obtain rfl : c' = c := Option.some.inj hcontainer
      exact hc c' hgiven
    | none =>
      rw [hgiven] at hcontainer
      have hmem : c ∈ ((Store.grantsIn t).map Record.container).eraseDups :=
        List.mem_of_head? hcontainer
      obtain ⟨r, hr, rfl⟩ := List.mem_map.mp (List.mem_eraseDups.mp hmem)
      exact hnames r hr
  obtain ⟨e, hshow, hsound⟩ := showing_sound hdir rfl hs hnames hselected
  rw [ht] at hrun
  exact ⟨e, w', hrun.trans (by rw [← hshow]; rfl), hw' ▸ hsound⟩

/-- As long as the file stays fit for the editor, every series of steps goes through. -/
theorem play_sound (hdir : Homes.dir env = .ok dir) (h : Sound s e w.disk) {steps : List Step}
    (hsteps : ∀ d, .rewrite d ∈ steps → s.Editable d) :
    ∃ e' w', (play env e steps).run w = (.ok e', w') ∧ Sound s e' w'.disk := by
  induction steps generalizing e w with
  | nil => exact ⟨e, w, rfl, h⟩
  | cons x steps ih =>
    have hstep : ∃ e₁ w₁, (step env e x).run w = (.ok e₁, w₁) ∧ Sound s e₁ w₁.disk := by
      cases x with
      | act a => exact act_sound hdir h a
      | rewrite d =>
        exact ⟨e, _, rfl, h.store, hsteps d List.mem_cons_self, h.selected, h.names⟩
    obtain ⟨e₁, w₁, hrun, h₁⟩ := hstep
    obtain ⟨e', w', hrun', h'⟩ := ih h₁ fun d hd => hsteps d (List.mem_cons_of_mem x hd)
    refine ⟨e', w', ?_, h'⟩
    rw [play_cons, run_bind_ok hrun, hrun']

/-- The editor has been opened on a store, for a host and an image. -/
structure IsOn (s : Store) (host : Host) (image : String) (e : Editor) : Prop where
  store : e.store = s
  host : e.host = host
  image : e.image = image

variable {host : Host} {image : String}

theorem isOn_of_refresh (h : (refresh env e).run w = (.ok e', w')) (he : IsOn s host image e) :
    IsOn s host image e' := by
  rw [refresh_frame h]
  exact ⟨he.store, he.host, he.image⟩

/-- No action takes the editor to another store, host or image. -/
theorem Acted.isOn {a : Action} (h : Acted env e w a e' w') (he : IsOn s host image e) :
    IsOn s host image e' := by
  obtain ⟨hstore, hhost, himage⟩ := he
  cases h with
  | rejected hm hw' => cases a <;> exact ⟨hstore, hhost, himage⟩
  | submitted hname hrun =>
    obtain ⟨hstore', hhost', himage'⟩ := isOn_of_refresh hrun ⟨hstore, hhost, himage⟩
    exact ⟨hstore', hhost', himage'⟩
  | granted hc hvalue hgrant hrun => exact isOn_of_refresh hrun ⟨hstore, hhost, himage⟩
  | revoked hr hrevoke hrun => exact isOn_of_refresh hrun ⟨hstore, hhost, himage⟩
  | picked hname hrun => exact isOn_of_refresh hrun ⟨hstore, hhost, himage⟩
  | noRow hr => exact ⟨hstore, hhost, himage⟩
  | noName hname => exact ⟨hstore, hhost, himage⟩

theorem isOn_play {steps : List Step} (he : IsOn s host image e)
    (h : (play env e steps).run w = (.ok e', w')) : IsOn s host image e' := by
  induction steps generalizing e w with
  | nil =>
    cases h
    exact he
  | cons x steps ih =>
    rw [play_cons] at h
    obtain ⟨e₁, w₁, hstep, hrest⟩ := exists_of_run_bind_ok h
    refine ih ?_ hrest
    cases x with
    | act a => exact (acted_of_act hstep).isOn he
    | rewrite d =>
      cases hstep
      exact he

end Editor

end BoxWarden
