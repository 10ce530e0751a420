import BoxWarden.Proofs.Editor.Run

/-!
The names in a file that others have written. What stands in front of the first colon is taken as it
is, so it need not be the name of a container. Where it is one, the container can be planned, and the
editor opens on it and lets it be picked.
-/

namespace BoxWarden

open Session

namespace Store

variable {s : Store} {w : World} {t : String}

theorem text_of_textAt (h : w.disk.textAt s.path = .ok t) : (s.text.run w).1 = .ok t := by
  rw [run_text, h]
  rfl

/-- The names in a file that can be read. -/
theorem containers_of_text (h : (s.text.run w).1 = .ok t) :
    (s.containers.run w).1 = .ok ((grantsIn t).map Record.container).eraseDups := by
  obtain ⟨w', -, hrun⟩ := run_containers s w
  rw [hrun, s.textAt_of_text w h]
  rfl

end Store

namespace Editor

variable {env : Environment} {s : Store} {e : Editor} {w : World} {t : String} {dir : Path}

/-- A name that the editor can show: an empty one selects no container. -/
def CanShow (name : String) : Prop := name = "" ∨ isContainerName name = true

theorem isContainerName_of_canShow {name : String} (h : CanShow name) {c : String}
    (hc : nonEmpty? (some name) = some c) : isContainerName c = true := by
  obtain ⟨hname, hne⟩ := Option.filter_eq_some_iff.mp hc
  obtain rfl := Option.some.inj hname
  obtain rfl | hvalid := h
  · simp at hne
  · exact hvalid

/-- A name that can be shown is picked without a failure. -/
theorem pick_of_canShow (hdir : Homes.dir env = .ok dir) (ht : w.disk.textAt e.store.path = .ok t)
    {i : Nat} {name : String} (hi : e.names[i]? = some name) (hname : CanShow name) :
    ∃ e' w', (act env e (.pick i)).run w = (.ok e', w') ∧ e'.container = some name := by
  obtain ⟨e', hshow, -⟩ := exists_showing (e := e.choosing name) hdir
    (fun c hc => isContainerName_of_canShow hname hc) t
  obtain ⟨w', -, hrun⟩ := run_refresh env (e.choosing name) w
  have hstore : (e.choosing name).store = e.store := rfl
  rw [hstore, ht] at hrun
  have hshown : (refresh env (e.choosing name)).run w = (.ok e', w') := by
    rw [hrun, ← hshow]
    rfl
  refine ⟨e', w', (act_pick env hi w).trans ?_, ?_⟩
  · simp only [run_inBackground, hshown]
  · rw [showing_frame hshow]
    rfl

/-- Without a container the editor opens on the first name of the file, if that one can be shown,
and lets the names of the file be picked. -/
theorem start_of_canShow (hdir : Homes.dir env = .ok dir) (ht : w.disk.textAt s.path = .ok t)
    {names : List String} (hnames : ((Store.grantsIn t).map Record.container).eraseDups = names)
    (hfirst : ∀ name, names.head? = some name → CanShow name) (host : Option Host)
    (image : Option String) :
    ∃ e w', (start env s none host image).run w = (.ok e, w') ∧ w'.disk = w.disk ∧
      e.store = s ∧ e.names = names := by
  have hselected : (fresh env s none host image t).selected? = nonEmpty? names.head? := by
    rw [← hnames]
    rfl
  have hvalid (c : String) (hc : nonEmpty? names.head? = some c) : isContainerName c = true := by
    cases hhead : names.head? with
    | none =>
      rw [hhead] at hc
      cases hc
    | some name =>
      rw [hhead] at hc
      exact isContainerName_of_canShow (hfirst name hhead) hc
  obtain ⟨e, hshow, hpick⟩ := exists_showing hdir (hselected ▸ hvalid) t
  obtain ⟨w', hw', hrun⟩ := run_start env s none host image w
  rw [ht] at hrun
  refine ⟨e, w', hrun.trans (by rw [← hshow]; rfl), hw', ?_, ?_⟩
  · rw [showing_frame hshow]
    rfl
  · rw [hpick, hselected, hnames, pickable_eq]
    have hknown : (nonEmpty? names.head?).filter (· ∉ names) = none := by
      rw [Option.filter_eq_none_iff]
      intro c hc
      have hmem := List.mem_of_head? (Option.filter_eq_some_iff.mp hc).1
      simpa using hmem
    rw [hknown]
    simp

/-- A file can be read, and whatever names it holds, a name of a container can be planned and any
other one is refused as such. So if its first name can be shown, the editor opens on it and lists
its names; and any name in the list of an editor that can be shown can be picked. -/
theorem opens_on_names (hdir : Homes.dir env = .ok dir) (ht : (s.text.run w).1 = .ok t) :
    ∃ names, (s.containers.run w).1 = .ok names ∧
      (∀ name image host,
        (isContainerName name = true → ∃ plan w',
          (Plan.make env s name image host).run w = (.ok plan, w') ∧
            plan.name = name ∧ plan.image = image) ∧
        (isContainerName name = false →
          ((Plan.make env s name image host).run w).1 = .error (.badName name))) ∧
      ((∀ name, names.head? = some name → CanShow name) → ∀ host image, ∃ e w',
        (start env s none host image).run w = (.ok e, w') ∧ w'.disk = w.disk ∧
          e.store = s ∧ e.names = names) ∧
      ∀ (e : Editor) (i : Nat) (name : String), e.store = s → e.names[i]? = some name →
        CanShow name →
          ∃ e' w', (act env e (.pick i)).run w = (.ok e', w') ∧ e'.container = some name := by
  have htext := s.textAt_of_text w ht
  refine ⟨_, Store.containers_of_text ht, ?_, ?_, ?_⟩
  · intro name image host
    obtain ⟨w', -, hmake⟩ := Plan.run_make env s name image host htext
    constructor
    · intro hname
      rw [Homes.home_of_isContainerName hname, hdir] at hmake
      exact ⟨_, w', hmake, rfl, rfl⟩
    · intro hname
      rw [hmake, Homes.home_of_badName hname]
      rfl
  · intro hfirst host image
    exact start_of_canShow hdir htext rfl hfirst host image
  · intro e i name hstore hi hname
    exact pick_of_canShow hdir (hstore ▸ htext) hi hname

theorem text_desk :
    (Store.deskStore.text.run { disk := Store.desk }).1 = .ok "# mine\r\ndev:gpu:1" :=
  Store.text_of_textAt (Disk.textAt_of_file (m := 0o600) rfl rfl rfl)

theorem containers_desk :
    (Store.deskStore.containers.run { disk := Store.desk }).1 = .ok ["dev"] := by
  have hnames : ((Store.grantsIn "# mine\r\ndev:gpu:1").map Record.container).eraseDups = ["dev"] := by
    decide
  rw [Store.containers_of_text text_desk, hnames]

theorem opens_on_names_desk :
    ∃ e e' w' w'',
      (start { home := "/home/me" } Store.deskStore none none none).run { disk := Store.desk } =
        (.ok e, w') ∧ e.names = ["dev"] ∧
      (act { home := "/home/me" } e (.pick 0)).run { disk := Store.desk } = (.ok e', w'') ∧
        e'.container = some "dev" := by
  have hshow : CanShow "dev" := .inr (by decide)
  obtain ⟨names, hnames, -, hstart, hpick⟩ := opens_on_names Homes.dir_desk text_desk
  rw [containers_desk, Except.ok.injEq] at hnames
  subst hnames
  obtain ⟨e, w', hrun, -, hstore, he⟩ := hstart (by simp [hshow]) none none
  obtain ⟨e', w'', hact, hcontainer⟩ := hpick e 0 "dev" hstore (by rw [he]; rfl) hshow
  exact ⟨e, e', w', w'', hrun, he, hact, hcontainer⟩

/-- The desk with a line of somebody else in the file, whose name has a space. -/
def spacedDesk : Disk where
  nodes := [
    ([], .dir 0o755),
    (["home"], .dir 0o755),
    (["home", "p.conf"], .file 0o600 "bad name:gpu:1\n".toUTF8)]
  cwd := ["home"]

/-- Not every name of a file can be planned: it need not be the name of a container, and even where
all are, the home of the user may be unknown. -/
theorem not_opens_on_names :
    (¬ ∀ (s : Store) (w : World) (t : String) (names : List String), (s.text.run w).1 = .ok t →
      (s.containers.run w).1 = .ok names → ∀ name ∈ names, ∀ image host, ∃ plan,
        ((Plan.make { home := "/home/me" } s name image host).run w).1 = .ok plan) ∧
    ¬ ∀ (env : Environment) (s : Store) (w : World) (t : String) (names : List String),
      (s.text.run w).1 = .ok t → (s.containers.run w).1 = .ok names →
      (∀ name ∈ names, isContainerName name = true) → ∀ name ∈ names, ∀ image host, ∃ plan,
        ((Plan.make env s name image host).run w).1 = .ok plan := by
  constructor
  · intro h
    have htext : spacedDesk.textAt Store.deskStore.path = .ok "bad name:gpu:1\n" :=
      Disk.textAt_of_file (m := 0o600) rfl rfl rfl
    have ht : (Store.deskStore.text.run { disk := spacedDesk }).1 = .ok "bad name:gpu:1\n" :=
      Store.text_of_textAt htext
    have hmem : "bad name" ∈
        ((Store.grantsIn "bad name:gpu:1\n").map Record.container).eraseDups := by decide
    obtain ⟨plan, hplan⟩ := h _ _ _ _ ht (Store.containers_of_text ht) _ hmem "img" none
    obtain ⟨w', -, hmake⟩ := Plan.run_make { home := "/home/me" } Store.deskStore "bad name" "img" none
      (w := { disk := spacedDesk }) htext
    rw [hmake, Homes.home_of_badName (by decide)] at hplan
    cases hplan
  · intro h
    obtain ⟨plan, hplan⟩ := h { home := "~" } _ _ _ _ text_desk containers_desk (by decide) "dev"
      List.mem_cons_self "img" none
    obtain ⟨w', -, hmake⟩ := Plan.run_make { home := "~" } Store.deskStore "dev" "img" none
      (w := { disk := Store.desk }) (Store.deskStore.textAt_of_text _ text_desk)
    have hhome : Homes.home { home := "~" } "dev" = .error (.home .unknown) := rfl
    rw [hmake, hhome] at hplan
    cases hplan

end Editor

end BoxWarden
