import BoxWarden.Proofs.Command.DryRun
import BoxWarden.Proofs.CommandLine.ExitCode

/-!
Runs that create no container but one, from one image. What is started and what is shown is followed
step by step: only the carrying out of a plan starts a create command or shows one, and it takes the
image that the plan was made for.
-/

namespace BoxWarden

open Session

open Plan (opening)

/-- A command that creates a container. -/
def Creates (command : List String) : Prop := command[1]? = some "create"

/-- A text that begins as the header above a command. -/
def IsHeader (text : String) : Prop := text.toList.head? = some '='

/-- Among these commands and texts, create commands and headers are for one container and image. -/
structure OnlyFor (name image : String) (dryRun : Bool) (cs : List (List String × Bool))
    (ts : List (Stream × String)) : Prop where
  commands : ∀ c ∈ cs, Creates c.1 → ∃ more, c.1 = opening name image ++ more
  texts : ∀ text, (Stream.out, text) ∈ ts → IsHeader text →
    ∃ more summary, text = Terminal.header (opening name image ++ more) summary dryRun

/-- A header is among these texts and, unless it is a dry run, a create command was started. -/
def Creating (dryRun : Bool) (cs : List (List String × Bool)) (ts : List (Stream × String)) :
    Prop :=
  (∃ text, (Stream.out, text) ∈ ts ∧ IsHeader text) ∧
    (dryRun = false → ∃ c ∈ cs, Creates c.1)

section
variable {name image : String} {dryRun : Bool} {cs cs' : List (List String × Bool)}
  {ts ts' : List (Stream × String)}

theorem onlyFor_of_none (hcs : ∀ c ∈ cs, ¬ Creates c.1)
    (hts : ∀ text, (Stream.out, text) ∈ ts → ¬ IsHeader text) : OnlyFor name image dryRun cs ts :=
  ⟨fun c hc hcreates => absurd hcreates (hcs c hc),
    fun text htext hheader => absurd hheader (hts text htext)⟩

theorem OnlyFor.append (h : OnlyFor name image dryRun cs ts)
    (h' : OnlyFor name image dryRun cs' ts') :
    OnlyFor name image dryRun (cs ++ cs') (ts ++ ts') := by
  refine ⟨List.forall_mem_append.mpr ⟨h.commands, h'.commands⟩, fun text hmem => ?_⟩
  obtain hmem | hmem := List.mem_append.mp hmem
  · exact h.texts text hmem
  · exact h'.texts text hmem

theorem Creating.mono (h : Creating dryRun cs ts) (hcs : cs ⊆ cs') (hts : ts ⊆ ts') :
    Creating dryRun cs' ts' := by
  obtain ⟨⟨text, htext, hheader⟩, hcommand⟩ := h
  refine ⟨⟨text, hts htext, hheader⟩, fun hdry => ?_⟩
  obtain ⟨c, hc, hcreates⟩ := hcommand hdry
  exact ⟨c, hcs hc, hcreates⟩

end

/-- However a run ends, its create commands and headers are for one container and image; and if it
succeeds, it has them. -/
def KeepsTo (m : Session α) (w : World) (name image : String) (dryRun : Bool) : Prop :=
  ∃ r w' cs ts, m.run w = (r, w') ∧ Ran w w' cs ts ∧ OnlyFor name image dryRun cs ts ∧
    ∀ a, r = .ok a → Creating dryRun cs ts

section
variable {α β : Type} {name image : String} {dryRun : Bool} {w : World}
  {cs : List (List String × Bool)} {m : Session α} {f : α → Session β}

/-- A run that fails without a create command and without a header. -/
theorem keepsTo_of_error {e : Fault} (h : Does m w (.error e) cs [])
    (hcs : ∀ c ∈ cs, ¬ Creates c.1) : KeepsTo m w name image dryRun := by
  obtain ⟨w', hrun, -, hran⟩ := h
  exact ⟨_, w', cs, [], hrun, hran, onlyFor_of_none hcs (by simp), fun a ha => by cases ha⟩

/-- What comes first does not create anything. -/
theorem KeepsTo.after {a : α} (h : Does m w (.ok a) cs []) (hcs : ∀ c ∈ cs, ¬ Creates c.1)
    (hf : ∀ w', w'.disk = w.disk → Ran w w' cs [] → KeepsTo (f a) w' name image dryRun) :
    KeepsTo (m >>= f) w name image dryRun := by
  obtain ⟨w₁, hrun₁, hdisk₁, hran₁⟩ := h
  obtain ⟨r, w₂, cs₂, ts₂, hrun₂, hran₂, honly, hcreating⟩ := hf w₁ hdisk₁ hran₁
  exact ⟨r, w₂, cs ++ cs₂, [] ++ ts₂, (run_bind_ok hrun₁ f).trans hrun₂, hran₁.trans hran₂,
    (onlyFor_of_none hcs (by simp)).append honly,
    fun b hb => (hcreating b hb).mono (List.subset_append_right _ _) (List.subset_append_right _ _)⟩

theorem KeepsTo.after_silent (hm : Silent m)
    (hf : ∀ a w', m.run w = (.ok a, w') → KeepsTo (f a) w' name image dryRun) :
    KeepsTo (m >>= f) w name image dryRun := by
  rcases hrun : m.run w with ⟨e | a, w₁⟩
  · exact ⟨_, w₁, [], [], run_bind_error hrun f, hm.ran hrun, onlyFor_of_none (by simp) (by simp),
      fun b hb => by cases hb⟩
  · obtain ⟨r, w₂, cs, ts, hrun₂, hran₂, honly, hcreating⟩ := hf a w₁ hrun
    have hran : Ran w w₂ cs ts := by simpa using (hm.ran hrun).trans hran₂
    exact ⟨r, w₂, cs, ts, (run_bind_ok hrun f).trans hrun₂, hran, honly, hcreating⟩

/-- A run that gives a result and prints no header. -/
def EndsQuietly (m : Session α) (w : World) : Prop :=
  ∃ a ts, Does m w (.ok a) [] ts ∧ ∀ text, (Stream.out, text) ∈ ts → ¬ IsHeader text

theorem KeepsTo.before (h : KeepsTo m w name image dryRun) (hf : ∀ a w', EndsQuietly (f a) w') :
    KeepsTo (m >>= f) w name image dryRun := by
  obtain ⟨r, w₁, cs₁, ts₁, hrun, hran, honly, hcreating⟩ := h
  cases r with
  | error e =>
    exact ⟨_, w₁, cs₁, ts₁, run_bind_error hrun f, hran, honly, fun b hb => by cases hb⟩
  | ok a =>
    obtain ⟨b, ts, ⟨w₂, hrun₂, -, hran₂⟩, hts⟩ := hf a w₁
    exact ⟨_, w₂, _, _, (run_bind_ok hrun f).trans hrun₂, hran.trans hran₂,
      honly.append (onlyFor_of_none (by simp) hts),
      fun _ _ => (hcreating a rfl).mono (List.subset_append_left _ _) (List.subset_append_left _ _)⟩

theorem endsQuietly_pure (a : α) (w : World) : EndsQuietly (pure a) w :=
  ⟨a, [], does_pure a w, by simp⟩

end

namespace Plan

variable {env : Environment} {store : Store} {name image : String} {host : Option Host} {w : World}

/-- A plan is shown and carried out as it is. -/
theorem keepsTo_execute {plan : Plan} {more : List String}
    (hcommand : plan.command = opening name image ++ more) (dryRun : Bool) :
    KeepsTo (plan.execute env dryRun) w name image dryRun := by
  have htexts : ∀ text, (Stream.out, text) ∈ plan.shown dryRun → IsHeader text →
      ∃ more summary, text = Terminal.header (opening name image ++ more) summary dryRun := by
    intro text htext _
    obtain ⟨-, rfl⟩ := Prod.mk.inj (List.mem_singleton.mp htext)
    exact ⟨more, _, by rw [hcommand]⟩
  have hshown : ∃ text, (Stream.out, text) ∈ plan.shown dryRun ∧ IsHeader text :=
    ⟨_, List.mem_singleton_self _, Terminal.head_header _ _ _⟩
  cases dryRun with
  | true =>
    obtain ⟨w', hrun, -, hran⟩ := does_execute_dry env plan w
    exact ⟨_, w', _, _, hrun, hran, ⟨by simp, htexts⟩, fun _ _ => ⟨hshown, by simp⟩⟩
  | false =>
    obtain ⟨r, w', cs, hrun, hran, ⟨rfl, e, rfl⟩ | rfl⟩ := ran_execute env plan w
    · exact ⟨_, w', _, _, hrun, hran, ⟨by simp, htexts⟩, fun a ha => by cases ha⟩
    · have hcreates : Creates plan.command := by
        rw [hcommand]
        rfl
      refine ⟨r, w', _, _, hrun, hran, ⟨?_, htexts⟩, fun _ _ => ⟨hshown, fun _ => ?_⟩⟩
      · exact List.forall_mem_singleton.mpr fun _ => ⟨more, hcommand⟩
      · exact ⟨_, List.mem_singleton_self _, hcreates⟩

/-- From the grants to the container, with one image. -/
theorem keepsTo_make_execute (env : Environment) (store : Store) (name image : String)
    (host : Option Host) (dryRun : Bool) {f : Plan → Session α}
    (hf : ∀ plan w', EndsQuietly (f plan) w') (w : World) :
    KeepsTo (do
      let plan ← make env store name image host
      plan.execute env dryRun
      f plan) w name image dryRun := by
  have hmake := does_make env store name image host w
  cases hplanned : planned env store name image host w.disk with
  | error e =>
    rw [hplanned] at hmake
    exact keepsTo_of_error (hmake.bind_error _) (by simp)
  | ok plan =>
    rw [hplanned] at hmake
    obtain ⟨-, more, hcommand⟩ := of_planned hplanned
    exact KeepsTo.after hmake (by simp) fun w₁ _ _ =>
      (keepsTo_execute hcommand dryRun).before fun _ w' => hf plan w'

theorem not_creates_takedown (name : String) : ∀ c ∈ Tool.takedown name, ¬ Creates c.1 := by
  simp [Tool.takedown, Tool.listCommand, Creates]

/-- Building a container anew, with the image that comes from what is listed of it. -/
theorem keepsTo_recreate (env : Environment) (store : Store) (name : String) (asked : Option String)
    (default : String) (host : Option Host) (dryRun : Bool) (w : World) :
    KeepsTo (recreate env store name asked default host dryRun) w name
      (imageFor asked (Tool.listed name w.next) default) dryRun := by
  have hlist : ∀ c ∈ [(Tool.listCommand, true)], ¬ Creates c.1 := by
    simp [Tool.listCommand, Creates]
  cases dryRun with
  | true =>
    have hfind := Tool.does_findOrNone source name w
    cases hnext : w.next.refusal? with
    | some reason =>
      rw [Reply.forgiven_of_some hnext] at hfind
      exact keepsTo_of_error (hfind.bind_error _) hlist
    | none =>
      rw [Reply.forgiven_of_none hnext] at hfind
      exact KeepsTo.after hfind hlist fun w₁ _ _ =>
        keepsTo_make_execute env store name _ host true endsQuietly_pure w₁
  | false =>
    obtain ⟨-, hdoes⟩ | ⟨k, e, -, -, hdoes⟩ := Tool.attempts_teardown name w
    · exact KeepsTo.after hdoes (not_creates_takedown name) fun w₁ _ _ =>
        keepsTo_make_execute env store name _ host false endsQuietly_pure w₁
    · exact keepsTo_of_error (hdoes.bind_error _) fun c hc =>
        not_creates_takedown name c (List.mem_of_mem_take hc)

end Plan

end BoxWarden
