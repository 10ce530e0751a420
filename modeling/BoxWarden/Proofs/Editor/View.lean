import BoxWarden.Proofs.Editor.Run

/-!
What the editor shows. Whenever it renews what it shows, that is what the file says at that moment
for the container that is selected, whoever has written the file.
-/

namespace BoxWarden.Editor

open Session

/-- An editor shows what the file of a store says for the container that is selected. -/
structure Shows (env : Environment) (s : Store) (host : Host) (image : String) (e : Editor)
    (w : World) : Prop where
  /-- The containers that have grants come first, and the selected one last if it has none. -/
  names : ∃ known, (s.containers.run w).1 = .ok known ∧
    e.names = known ++ (e.selected?.filter (· ∉ known)).toList
  rows : ∀ c, e.selected? = some c → ((s.list c).run w).1 = .ok e.rows
  title : ∀ c, e.selected? = some c →
    e.title = c ++ ": " ++ toString e.rows.length ++ " record(s)"
  notice : e.notice = true ↔ e.selected? ≠ none ∧ e.rows = []
  plan : ∀ c, e.selected? = some c → ∃ plan,
    ((Plan.make env s c image (some host)).run w).1 = .ok plan ∧ e.plan = some plan ∧
      e.preview = BoxWarden.preview plan.command plan.compiled.colouredSummary
  nothing : e.selected? = none →
    e.rows = [] ∧ e.title = "No container selected" ∧ e.plan = none ∧ e.preview = ""

variable {env : Environment} {s : Store} {host : Host} {image : String} {e e' : Editor}
  {w w' : World}

theorem Shows.say (h : Shows env s host image e w) (message : String) (isError : Bool) :
    Shows env s host image (e.say message isError) w :=
  ⟨h.names, h.rows, h.title, h.notice, h.plan, h.nothing⟩

/-- What is shown of the text of the file is what the store finds in it. -/
theorem shows_of_showing {t : String} (he : IsOn s host image e) (ht : w.disk.textAt s.path = .ok t)
    (h : e.showing env t = .ok e') : Shows env s host image e' w := by
  obtain ⟨rfl, rfl, rfl⟩ := he
  have hselected : e'.selected? = e.selected? := by rw [showing_frame h]; rfl
  obtain ⟨w₁, -, hcontainers⟩ := e.store.run_containers w
  rw [ht] at hcontainers
  rw [showing] at h
  cases hc : e.selected? with
  | none =>
    have hnone := hselected.trans hc
    simp only [hc, Except.ok.injEq] at h
    subst h
    exact {
      names := ⟨_, by rw [hcontainers]; rfl, by rw [hnone]; exact pickable_eq _ none⟩
      rows := by simp [hnone]
      title := by simp [hnone]
      notice := by simp [hnone]
      plan := by simp [hnone]
      nothing := fun _ => ⟨rfl, rfl, rfl, rfl⟩ }
  | some c =>
    have hsome := hselected.trans hc
    obtain ⟨w₂, -, hlist⟩ := e.store.run_list w c
    obtain ⟨w₃, -, hmake⟩ := Plan.run_make env e.store c e.image (some e.host) ht
    rw [ht] at hlist
    simp only [hc] at h
    cases hhome : Homes.home env c with
    | error f =>
      rw [hhome] at h
      cases h
    | ok home =>
      rw [hhome] at h hmake
      have honly {p : String → Prop} (hp : p c) : ∀ c', e'.selected? = some c' → p c' := by
        intro c' hc'
        rwa [← Option.some.inj (hsome.symm.trans hc')]
      simp only [Except.map, Except.ok.injEq] at h
      subst h
      exact {
        names := ⟨_, by rw [hcontainers]; rfl, by rw [hsome]; exact pickable_eq _ (some c)⟩
        rows := honly (by rw [hlist]; rfl)
        title := honly rfl
        notice := by rw [hsome]; simp
        plan := honly ⟨_, by rw [hmake]; rfl, rfl, rfl⟩
        nothing := fun hnone => absurd (hsome.symm.trans hnone) (by simp) }

theorem shows_of_refresh (h : (refresh env e).run w = (.ok e', w')) (he : IsOn s host image e) :
    Shows env s host image e' w' := by
  obtain ⟨hw', t, ht, hshow⟩ := refresh_ok h
  rw [he.store, ← hw'] at ht
  exact shows_of_showing he ht hshow

/-- Whether an action has been accepted, as its result tells: a container or a grant has not been
rejected, or what was pressed is there. -/
def Accepted (e : Editor) : Action → Editor → Prop
  | .submitContainer _, e' => e'.statusIsError = false
  | .grant _ _, e' => e'.statusIsError = false
  | .revoke row, _ => row < e.rows.length
  | .pick index, _ => index < e.names.length

/-- After an accepted action the editor shows the file. -/
theorem Acted.shows {a : Action} (h : Acted env e w a e' w') (ha : Accepted e a e')
    (he : IsOn s host image e) : Shows env s host image e' w' := by
  obtain ⟨hstore, hhost, himage⟩ := he
  cases h with
  | rejected hm hw' =>
    cases a with
    | submitContainer text => cases ha
    | grant kind value => cases ha
    | revoke row => cases hm
    | pick index => cases hm
  | submitted hname hrun =>
    exact (shows_of_refresh hrun ⟨hstore, hhost, himage⟩).say _ _
  | granted hc hvalue hgrant hrun => exact shows_of_refresh hrun ⟨hstore, hhost, himage⟩
  | revoked hr hrevoke hrun => exact shows_of_refresh hrun ⟨hstore, hhost, himage⟩
  | picked hname hrun => exact shows_of_refresh hrun ⟨hstore, hhost, himage⟩
  | noRow hr => exact absurd ha (by simpa [Accepted] using hr)
  | noName hname => exact absurd ha (by simpa [Accepted] using hname)

/-- The editor is a view of the file. When it opens, and after every accepted action of any run in
which others rewrite the file as they like, it shows what the store finds in the file at that moment
for the container that is selected; when it opens without a container, that is the first one that has
grants. As long as the file is fit for the editor, no step of a run goes wrong. -/
theorem view_of_file (env : Environment) (s : Store) (container : Option String)
    (host : Option Host) (image : Option String) (w : World) :
    (∀ e w', (start env s container host image).run w = (.ok e, w') →
      Shows env s (host.getD env.host) ((nonEmpty? image).getD env.defaultImage) e w' ∧
      (∃ known, (s.containers.run w).1 = .ok known ∧
        e.container = (nonEmpty? container).orElse fun _ => known.head?) ∧
      ∀ steps e₁ w₁ a e₂ w₂, (play env e steps).run w' = (.ok e₁, w₁) →
        (act env e₁ a).run w₁ = (.ok e₂, w₂) → Accepted e₁ a e₂ →
          Shows env s (host.getD env.host) ((nonEmpty? image).getD env.defaultImage) e₂ w₂) ∧
    ∀ dir, Homes.dir env = .ok dir → s.Editable w.disk →
      (∀ c, nonEmpty? container = some c → isContainerName c = true) →
      ∃ e w', (start env s container host image).run w = (.ok e, w') ∧
        ∀ steps, (∀ d, .rewrite d ∈ steps → s.Editable d) →
          ∃ e₁ w₁, (play env e steps).run w' = (.ok e₁, w₁) := by
  refine ⟨fun e w' hstart => ?_, fun dir hdir hs hc => ?_⟩
  · obtain ⟨hw', t, ht, hshow⟩ := start_ok hstart
    rw [← hw'] at ht
    have hfresh : IsOn s (host.getD env.host) ((nonEmpty? image).getD env.defaultImage)
        (fresh env s container host image t) := ⟨rfl, rfl, rfl⟩
    have hframe := showing_frame hshow
    refine ⟨shows_of_showing hfresh ht hshow, ?_, fun steps e₁ w₁ a e₂ w₂ hplay hact ha => ?_⟩
    · obtain ⟨w₁, -, hcontainers⟩ := s.run_containers w
      rw [← hw', ht] at hcontainers
      refine ⟨_, by rw [hcontainers]; rfl, ?_⟩
      rw [hframe]
      rfl
    · have hon : IsOn s (host.getD env.host) ((nonEmpty? image).getD env.defaultImage) e := by
        rw [hframe]
        exact ⟨rfl, rfl, rfl⟩
      exact (acted_of_act hact).shows ha (isOn_play hon hplay)
  · obtain ⟨e, w', hstart, hsound⟩ := start_sound hdir hs hc host image
    refine ⟨e, w', hstart, fun steps hsteps => ?_⟩
    obtain ⟨e₁, w₁, hplay, -⟩ := play_sound hdir hsound hsteps
    exact ⟨e₁, w₁, hplay⟩

theorem view_of_file_desk :
    let env : Environment := { home := "/home/me" }
    let w : World := { disk := Store.desk }
    Store.deskStore.Editable w.disk ∧ Homes.dir env = .ok ⟨.slash,
        ["home", "me", ".local", "share", "distrobox-secure", "homes"]⟩ ∧
      ∃ e w', (start env Store.deskStore none none none).run w = (.ok e, w') ∧
        e.container = some "dev" ∧ e.rows = [⟨"dev", .gpu, "1"⟩] ∧ e.notice = false ∧
        ∃ e₁ w₁, (play env e [.act (.grant none " /srv "), .rewrite Store.desk, .act (.revoke 0)]).run
          w' = (.ok e₁, w₁) := by
  intro env w
  refine ⟨Store.editable_desk, Homes.dir_desk, ?_⟩
  obtain ⟨hopened, hruns⟩ := view_of_file env Store.deskStore none none none w
  obtain ⟨e, w', hstart, hplay⟩ := hruns _ Homes.dir_desk Store.editable_desk (by simp [nonEmpty?])
  obtain ⟨hshows, ⟨known, hknown, hcontainer⟩, -⟩ := hopened e w' hstart
  have hw' : w'.disk = Store.desk := (start_ok hstart).1
  have htext : Store.desk.textAt Store.deskStore.path = .ok "# mine\r\ndev:gpu:1" :=
    Store.holding_desk.textAt
  have hdev : e.container = some "dev" := by
    obtain ⟨w₁, -, hcontainers⟩ := Store.deskStore.run_containers w
    rw [hcontainers, htext] at hknown
    rw [hcontainer, ← Except.ok.inj hknown]
    rfl
  have hrows : e.rows = [⟨"dev", .gpu, "1"⟩] := by
    have hlisted := hshows.rows "dev" (by rw [selected?, hdev]; rfl)
    obtain ⟨w₁, -, hlist⟩ := Store.deskStore.run_list w' "dev"
    rw [hlist, hw', htext] at hlisted
    rw [← Except.ok.inj hlisted]
    rfl
  refine ⟨e, w', hstart, hdev, hrows, ?_, hplay _ fun d hd => ?_⟩
  · rw [← Bool.not_eq_true, hshows.notice, hrows]
    simp
  · obtain rfl : d = Store.desk := by simpa using hd
    exact Store.editable_desk

end BoxWarden.Editor
