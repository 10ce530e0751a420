import BoxWarden.CommandLine.Run
import BoxWarden.Proofs.Command.DryRun

/-!
Building a container anew where there is no plan for it. Whether there is one depends on the grants
and on the name alone, but it is found out last: by then the container has been taken down. Only a
dry run, which looks and does nothing else, leaves it as it is.
-/

namespace BoxWarden

open Session

namespace Plan

variable {env : Environment} {store : Store} {name image : String} {host : Option Host} {w : World}
  {e : Fault}

/-- There is no plan if the grants cannot be read or the container can have no home. -/
theorem planned_eq_error_iff {d : Disk} : planned env store name image host d = .error e ↔
    (d.textAt store.path).mapError Fault.disk = .error e ∨
      (∃ t, d.textAt store.path = .ok t) ∧ Homes.home env name = .error e := by
  unfold planned
  cases d.textAt store.path with
  | error reason =>
    have hfails : (Except.error (Fault.disk reason) : Except Fault Plan) = .error e ↔
        (Except.error (Fault.disk reason) : Except Fault String) = .error e := by
      rw [Except.error.injEq, Except.error.injEq]
    exact hfails.trans (or_iff_left (by simp)).symm
  | ok t =>
    have hreads : ¬ (Except.ok t : Except Fault String) = .error e := by simp
    refine Iff.trans ?_ (or_iff_right hreads).symm
    cases Homes.home env name with
    | error e' =>
      have hfails : (Except.error e' : Except Fault Plan) = .error e ↔
          (Except.error e' : Except Fault Path) = .error e := by
        rw [Except.error.injEq, Except.error.injEq]
      exact hfails.trans (and_iff_right ⟨t, rfl⟩).symm
    | ok home =>
      have hplans : ¬ (Except.ok (ofRecords name image home (host.getD env.host)
          ((Store.grantsIn t).filter (·.container = name))) : Except Fault Plan) = .error e := by
        simp
      exact iff_of_false hplans (by simp)

/-- The image has no part in it. -/
theorem planned_eq_error_image {d : Disk} (h : planned env store name image host d = .error e)
    (image' : String) : planned env store name image' host d = .error e :=
  planned_eq_error_iff.mpr (planned_eq_error_iff.mp h)

theorem planned_of_make (h : ((make env store name image host).run w).1 = .error e) :
    planned env store name image host w.disk = .error e := by
  obtain ⟨w', hrun, -, -⟩ := does_make env store name image host w
  rwa [hrun] at h

/-- What is done after the commands that take a container down, if there is no plan. -/
theorem does_recreate_unplanned (hplan : planned env store name image host w.disk = .error e)
    (asked : Option String) (default : String)
    (hteardown : Does (Tool.teardown name) w (.ok (Tool.listed name w.next)) (Tool.takedown name)
      []) :
    Does (recreate env store name asked default host false) w (.error e) (Tool.takedown name)
      [] := by
  refine hteardown.bind fun w₁ hdisk₁ _ => Does.bind_error ?_ _
  have hmake := does_make env store name (imageFor asked (Tool.listed name w.next) default) host w₁
  rwa [hdisk₁, planned_eq_error_image hplan] at hmake

theorem does_recreate_dry_unplanned (hplan : planned env store name image host w.disk = .error e)
    (asked : Option String) (default : String) :
    Does (recreate env store name asked default host true) w
      ((w.next.forgiven ()).bind fun _ => .error e) [(Tool.listCommand, true)] [] := by
  have hlist := Tool.does_findOrNone source name w
  cases hnext : w.next.refusal? with
  | some reason =>
    rw [Reply.forgiven_of_some hnext] at hlist ⊢
    exact hlist.bind_error _
  | none =>
    rw [Reply.forgiven_of_none hnext] at hlist ⊢
    refine hlist.bind fun w₁ hdisk₁ _ => Does.bind_error ?_ _
    have hmake :=
      does_make env store name (imageFor asked (Tool.listed name w.next) default) host w₁
    rwa [hdisk₁, planned_eq_error_image hplan] at hmake

/-- Where no plan can be made, for the grants cannot be read or the container can have no home, the
container is taken down all the same: all that keeps it is a call that fails although the program is
there. The reason why there is no plan is told after that, and the tree is as it was. A dry run
starts nothing but the list command; and a request of the command line with a name that cannot be
one is refused before anything is started. -/
theorem recreate_unplanned (h : ((make env store name image host).run w).1 = .error e)
    (asked : Option String) (default : String) :
    ((store.text.run w).1 = .error e ∨ Homes.home env name = .error e) ∧
      ((∃ k reason, k < 3 ∧ (w.reply k).refusal? = some reason ∧
          Does (recreate env store name asked default host false) w (.error (.disk reason))
            ([(["distrobox", "list", "--no-color"], true),
              (["distrobox", "stop", "--yes", name], true),
              (["distrobox", "rm", "--force", name], true)].take (k + 1)) []) ∨
        (∀ k < 3, (w.reply k).refusal? = none) ∧
          Does (recreate env store name asked default host false) w (.error e)
            [(["distrobox", "list", "--no-color"], true),
              (["distrobox", "stop", "--yes", name], true),
              (["distrobox", "rm", "--force", name], true)] []) ∧
      (∃ r, Does (recreate env store name asked default host true) w (.error r)
        [(["distrobox", "list", "--no-color"], true)] []) ∧
      (isContainerName name = false → ∀ dryRun,
        (CommandLine.runRecreate env store dryRun name asked).run w =
          (.error (.badName name), w)) := by
  have hplan := planned_of_make h
  refine ⟨?_, ?_, ?_, ?_⟩
  · rw [Store.run_text]
    exact (planned_eq_error_iff.mp hplan).imp_right And.right
  · obtain ⟨hreplies, hdoes⟩ | ⟨k, reason, hk, hreply, hdoes⟩ := Tool.attempts_teardown name w
    · exact .inr ⟨hreplies, does_recreate_unplanned hplan asked default hdoes⟩
    · exact .inl ⟨k, reason, hk, hreply, hdoes.bind_error _⟩
  · have hdry := does_recreate_dry_unplanned hplan asked default
    cases hnext : w.next.forgiven () with
    | error r =>
      rw [hnext] at hdry
      exact ⟨r, hdry⟩
    | ok _ =>
      rw [hnext] at hdry
      exact ⟨e, hdry⟩
  · intro hname dryRun
    have hcheck : (require (checkName name)).run w = (.error (.badName name), w) := by
      rw [run_require, checkName, if_neg (by simp [hname])]
    exact run_bind_error hcheck _

/-- The desk, with a byte in the file of grants that is no text. -/
def garbledDesk : Disk :=
  Store.desk.put ["home", "p.conf"] (.file 0o600 ("dev:gpu:1\n".toUTF8 ++ ⟨#[0xFF, 0x0A]⟩))

theorem make_garbledDesk :
    ((make { home := "/home/me" } Store.deskStore "dev" "fedora" none).run
      { disk := garbledDesk }).1 = .error (.disk .notText) := by
  have htext : garbledDesk.textAt Store.deskStore.path = .error .notText := rfl
  obtain ⟨w', hrun, -, -⟩ := does_make { home := "/home/me" } Store.deskStore "dev" "fedora" none
    { disk := garbledDesk }
  rw [hrun, planned, htext]
  rfl

theorem recreate_unplanned_desk :
    ((make { home := "/home/me" } Store.deskStore "dev" "fedora" none).run
        { disk := garbledDesk }).1 = .error (.disk .notText) ∧
      Does (recreate { home := "/home/me" } Store.deskStore "dev" none "fedora" none false)
        { disk := garbledDesk } (.error (.disk .notText))
        [(["distrobox", "list", "--no-color"], true),
          (["distrobox", "stop", "--yes", "dev"], true),
          (["distrobox", "rm", "--force", "dev"], true)] [] := by
  obtain ⟨-, ⟨k, reason, hk, hreply, -⟩ | ⟨-, hdoes⟩, -⟩ :=
    recreate_unplanned make_garbledDesk none "fedora"
  · -- without scripted replies every command ends well
    rw [show World.reply { disk := garbledDesk } k = .ended 0 "" "" from rfl] at hreply
    cases hreply
  · exact ⟨make_garbledDesk, hdoes⟩

/-- A file of grants that is no text: the container is gone before this is found out. -/
theorem not_kept_unplanned :
    ¬ ∀ (env : Environment) (store : Store) (name image : String) (asked : Option String)
      (default : String) (host : Option Host) (w w' : World) (e : Fault),
      ((make env store name image host).run w).1 = .error e →
        (recreate env store name asked default host false).run w = (.error e, w') →
          ∃ cs, w'.started = w.started ++ cs ∧
            (["distrobox", "stop", "--yes", name], true) ∉ cs ∧
            (["distrobox", "rm", "--force", name], true) ∉ cs := by
  intro h
  have hteardown := (Tool.attempts_teardown "dev" { disk := garbledDesk }).does
    fun k _ => show (Reply.ended 0 "" "").refusal? = none from rfl
  obtain ⟨w', hrun, -, hran⟩ :=
    does_recreate_unplanned (planned_of_make make_garbledDesk) none "fedora" hteardown
  obtain ⟨cs, hcs, -, hrm⟩ := h _ _ _ _ _ _ _ _ _ _ make_garbledDesk hrun
  rw [hran.started] at hcs
  exact hrm (List.append_cancel_left hcs ▸ by decide)

end Plan

end BoxWarden
