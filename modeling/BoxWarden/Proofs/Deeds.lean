import BoxWarden.Proofs.Run

/-!
What a run does besides giving a result: the commands it starts and the texts it prints, in order.
Between them it may make notes in the log, and change the tree.
-/

namespace BoxWarden

/-- Something that a run does on its way. A note is one deed, even where it is printed as well. -/
inductive Deed
  | noted (entry : LogEntry)
  | printed (stream : Stream) (text : String)
  | started (command : List String) (captured : Bool)
deriving DecidableEq, Repr

namespace Deed

/-- What an onlooker notices of a deed. -/
def events (echo : Bool) : Deed → List Event
  | noted entry => .logged entry :: if echo then [.printed .err (entry.line ++ "\n")] else []
  | printed stream text => [.printed stream text]
  | started command captured => [.started command captured]

def command? : Deed → Option (List String × Bool)
  | started command captured => some (command, captured)
  | _ => none

def text? : Deed → Option (Stream × String)
  | printed stream text => some (stream, text)
  | _ => none

end Deed

/-- The command that an event starts. -/
def Event.command? : Event → Option (List String × Bool)
  | .started command captured => some (command, captured)
  | _ => none

/-- The text that an event adds to a stream. -/
def Event.textOn? (s : Stream) : Event → Option String
  | .printed t text => if t = s then some text else none
  | _ => none

namespace World

theorem started_eq (w : World) : w.started = w.events.filterMap Event.command? := rfl

theorem printed_eq (w : World) (s : Stream) :
    w.printed s = String.join (w.events.filterMap (Event.textOn? s)) := rfl

/-- How the next command will end, or the one after a number of others. -/
def reply (w : World) (k : Nat) : Reply := w.replies[k]?.getD (.ended 0 "" "")

def next (w : World) : Reply := w.reply 0

/-- The world in which a command has been started. -/
def afterStart (w : World) (command : List String) (captured : Bool) : World :=
  { w.emit (.started command captured) with replies := w.replies.drop 1 }

end World

/-- A run has started these commands and printed these texts, on the terminals that were there. -/
structure Ran (w w' : World) (commands : List (List String × Bool))
    (texts : List (Stream × String)) : Prop where
  outIsTerminal : w'.outIsTerminal = w.outIsTerminal
  errIsTerminal : w'.errIsTerminal = w.errIsTerminal
  echo : w'.echo = w.echo
  replies : w'.replies = w.replies.drop commands.length
  deeds : ∃ deeds : List Deed, deeds.filterMap Deed.command? = commands ∧
    deeds.filterMap Deed.text? = texts ∧
      w'.events = w.events ++ deeds.flatMap (Deed.events w.echo)

section
variable {w w' w'' : World} {cs cs' : List (List String × Bool)} {ts ts' : List (Stream × String)}

theorem Ran.refl (w : World) : Ran w w [] [] := ⟨rfl, rfl, rfl, rfl, [], rfl, rfl, by simp⟩

theorem Ran.trans (h : Ran w w' cs ts) (h' : Ran w' w'' cs' ts') :
    Ran w w'' (cs ++ cs') (ts ++ ts') := by
  obtain ⟨ds, rfl, rfl, hevents⟩ := h.deeds
  obtain ⟨ds', rfl, rfl, hevents'⟩ := h'.deeds
  refine ⟨h'.outIsTerminal.trans h.outIsTerminal, h'.errIsTerminal.trans h.errIsTerminal,
    h'.echo.trans h.echo, ?_, ds ++ ds', ?_, ?_, ?_⟩
  · rw [h'.replies, h.replies, List.drop_drop, List.length_append]
  · exact List.filterMap_append
  · exact List.filterMap_append
  · rw [hevents', hevents, h.echo, List.append_assoc, List.flatMap_append]

/-- A run goes on without starting or printing anything. -/
theorem Ran.quiet (h : Ran w w' cs ts) (h' : Ran w' w'' [] []) : Ran w w'' cs ts := by
  simpa using h.trans h'

/-- One deed after which the world is the same but for its tree and the replies that are left. -/
theorem ran_of_deed (d : Deed) (hterm : w'.outIsTerminal = w.outIsTerminal)
    (herr : w'.errIsTerminal = w.errIsTerminal) (hecho : w'.echo = w.echo)
    (hreplies : w'.replies = w.replies.drop (d.command?.toList.length))
    (hevents : w'.events = w.events ++ d.events w.echo) :
    Ran w w' d.command?.toList d.text?.toList := by
  refine ⟨hterm, herr, hecho, hreplies, [d], ?_, ?_, by simpa using hevents⟩
  · cases h : d.command? <;> simp [h]
  · cases h : d.text? <;> simp [h]

theorem ran_disk (w : World) (d : Disk) : Ran w { w with disk := d } [] [] :=
  ⟨rfl, rfl, rfl, rfl, [], rfl, rfl, by simp⟩

theorem ran_noted (w : World) (e : LogEntry) : Ran w (w.noted e) [] [] := by
  unfold World.noted
  cases h : w.echo with
  | false => exact ran_of_deed (.noted e) rfl rfl rfl rfl (by simp [World.emit, Deed.events, h])
  | true => exact ran_of_deed (.noted e) rfl rfl rfl rfl (by simp [World.emit, Deed.events, h])

theorem ran_printed (w : World) (s : Stream) (text : String) :
    Ran w (w.emit (.printed s text)) [] [(s, text)] :=
  ran_of_deed (.printed s text) rfl rfl rfl rfl rfl

theorem ran_started (w : World) (command : List String) (captured : Bool) :
    Ran w (w.afterStart command captured) [(command, captured)] [] :=
  ran_of_deed (.started command captured) rfl rfl rfl rfl rfl

/-- The commands among deeds are the ones among the events. -/
theorem commands_of_deeds (echo : Bool) (ds : List Deed) :
    (ds.flatMap (Deed.events echo)).filterMap Event.command? = ds.filterMap Deed.command? := by
  induction ds with
  | nil => rfl
  | cons d ds ih =>
    rw [List.flatMap_cons, List.filterMap_append, ih]
    cases d with
    | noted e => cases echo <;> rfl
    | printed s text => rfl
    | started command captured => rfl

/-- The texts among deeds are the ones among the events, but for the notes that are printed. -/
theorem texts_of_deeds {echo : Bool} {s : Stream} (hs : s = .err → echo = false) (ds : List Deed) :
    (ds.flatMap (Deed.events echo)).filterMap (Event.textOn? s) =
      ((ds.filterMap Deed.text?).filter (·.1 = s)).map (·.2) := by
  induction ds with
  | nil => rfl
  | cons d ds ih =>
    rw [List.flatMap_cons, List.filterMap_append, ih]
    cases d with
    | noted e =>
      cases echo with
      | false => rfl
      | true =>
        have herr : Stream.err ≠ s := fun he => absurd (hs he.symm) (by simp)
        simp [Deed.events, Event.textOn?, herr, List.filterMap_cons, Deed.text?]
    | printed s' text =>
      by_cases hse : s' = s <;> simp [Deed.events, Event.textOn?, Deed.text?, hse]
    | started command captured => rfl

/-- A text that is no note has been printed as such. -/
theorem mem_texts_of_deeds {echo : Bool} {s : Stream} {text : String}
    (hs : s = .err → ∀ e : LogEntry, text ≠ e.line ++ "\n") (ds : List Deed) :
    Event.printed s text ∈ ds.flatMap (Deed.events echo) ↔ (s, text) ∈ ds.filterMap Deed.text? := by
  rw [List.mem_flatMap, List.mem_filterMap]
  refine exists_congr fun d => and_congr_right fun _ => ?_
  cases d with
  | noted e =>
    have hne : ¬ (s = .err ∧ text = e.line ++ "\n") := fun h => hs h.1 e h.2
    cases echo <;> simp [Deed.events, Deed.text?, hne]
  | printed s' text' => simp [Deed.events, Deed.text?, eq_comm]
  | started command captured => simp [Deed.events, Deed.text?]

theorem Ran.started (h : Ran w w' cs ts) : w'.started = w.started ++ cs := by
  obtain ⟨ds, rfl, -, hevents⟩ := h.deeds
  rw [World.started_eq, World.started_eq, hevents, List.filterMap_append, commands_of_deeds]

/-- The text that goes to a stream. -/
def textOn (s : Stream) (ts : List (Stream × String)) : String :=
  String.join ((ts.filter (·.1 = s)).map (·.2))

/-- What a run adds to a stream: its texts, and no notes unless they are printed too. -/
theorem Ran.printed (h : Ran w w' cs ts) {s : Stream} (hs : s = .err → w.echo = false) :
    w'.printed s = w.printed s ++ textOn s ts := by
  obtain ⟨ds, -, rfl, hevents⟩ := h.deeds
  rw [World.printed_eq, World.printed_eq, hevents, List.filterMap_append, String.join_append,
    texts_of_deeds hs]
  rfl

/-- Which texts of a run are among its events, apart from notes. -/
theorem Ran.mem_events (h : Ran w w' cs ts) : ∃ es, w'.events = w.events ++ es ∧
    ∀ s text, (s = .err → ∀ e : LogEntry, text ≠ e.line ++ "\n") →
      (Event.printed s text ∈ es ↔ (s, text) ∈ ts) := by
  obtain ⟨ds, -, rfl, hevents⟩ := h.deeds
  exact ⟨_, hevents, fun s text hs => mem_texts_of_deeds hs ds⟩

theorem Ran.reply (h : Ran w w' cs ts) (k : Nat) : w'.reply k = w.reply (cs.length + k) := by
  rw [World.reply, World.reply, h.replies, List.getElem?_drop]

theorem Ran.next (h : Ran w w' cs ts) : w'.next = w.reply cs.length := h.reply 0

end

namespace Session

variable {α β : Type}

theorem run_start (command : List String) (captured : Bool) (w : World) :
    (start command captured).run w = (.ok w.next, w.afterStart command captured) := by
  rw [start, run_bind_ok (run_modify _ w), run_bind_ok (run_get _)]
  obtain ⟨disk, replies, events, out, err, echo⟩ := w
  cases replies <;> rfl

theorem run_print (s : Stream) (text : String) (w : World) :
    (print s text).run w = (.ok (), w.emit (.printed s text)) := rfl

/-- A run that starts nothing and prints nothing, however it ends. -/
def Silent (m : Session α) : Prop := ∀ w, Ran w (m.run w).2 [] []

theorem Silent.ran {m : Session α} (h : Silent m) {w w' : World} {r : Except Fault α}
    (hrun : m.run w = (r, w')) : Ran w w' [] [] := by
  simpa [hrun] using h w

theorem silent_pure (a : α) : Silent (pure a) := fun w => Ran.refl w

theorem Silent.bind {m : Session α} {f : α → Session β} (hm : Silent m) (hf : ∀ a, Silent (f a)) :
    Silent (m >>= f) := by
  intro w
  have hw := hm w
  rw [run_bind]
  generalize m.run w = x at hw
  obtain ⟨e | a, w'⟩ := x
  · exact hw
  · exact hw.quiet (hf a w')

/-- A run that fails has failed in its first part or behind it. -/
theorem Silent.cases_error {m : Session α} {f : α → Session β} {e : Fault}
    {w w₁ : World} (hm : Silent m) (h : (m >>= f).run w = (.error e, w₁)) :
    Ran w w₁ [] [] ∨ ∃ a w₂, Ran w w₂ [] [] ∧ (f a).run w₂ = (.error e, w₁) := by
  rcases hrun : m.run w with ⟨e' | a, w₂⟩
  · rw [run_bind_error hrun] at h
    obtain ⟨-, rfl⟩ := Prod.mk.inj h
    exact .inl (hm.ran hrun)
  · rw [run_bind_ok hrun] at h
    exact .inr ⟨a, w₂, hm.ran hrun, h⟩

theorem silent_require (r : Except Fault α) : Silent (require r) := by
  intro w
  rw [run_require]
  exact Ran.refl w

theorem silent_ask (f : Disk → Except DiskError α) : Silent (ask f) := by
  intro w
  rw [run_ask]
  exact Ran.refl w

theorem silent_onDisk (m : DiskM α) : Silent (onDisk m) := by
  intro w
  rw [run_onDisk]
  exact ran_disk w _

theorem silent_log (level : LogLevel) (source message : String) :
    Silent (log level source message) := by
  intro w
  rw [run_log]
  exact ran_noted w _

theorem silent_forM (xs : List β) {f : β → Session Unit} (hf : ∀ x, Silent (f x)) :
    Silent (xs.forM f) := by
  induction xs with
  | nil => exact silent_pure _
  | cons x xs ih => exact (hf x).bind fun _ => ih

theorem run_orElseTool (m : Session α) (go : ToolFailure → Session α) (w : World) :
    (orElseTool m go).run w = match m.run w with
      | (.error (.tool f), t) => (go f).run t
      | (r, t) => (r, t) := by
  rw [orElseTool, run_tryCatch]
  generalize m.run w = x
  obtain ⟨e | a, t⟩ := x
  · cases e <;> rfl
  · rfl

variable {w : World} {cs cs' : List (List String × Bool)} {ts ts' : List (Stream × String)}

/-- A run ends like this, after starting these commands and printing these texts, and the tree is as
it was. -/
def Does (m : Session α) (w : World) (r : Except Fault α) (cs : List (List String × Bool))
    (ts : List (Stream × String)) : Prop :=
  ∃ w', m.run w = (r, w') ∧ w'.disk = w.disk ∧ Ran w w' cs ts

theorem Does.bind {m : Session α} {f : α → Session β} {a : α} {r : Except Fault β}
    (hm : Does m w (.ok a) cs ts)
    (hf : ∀ w', w'.disk = w.disk → Ran w w' cs ts → Does (f a) w' r cs' ts') :
    Does (m >>= f) w r (cs ++ cs') (ts ++ ts') := by
  obtain ⟨w', hrun, hdisk, hran⟩ := hm
  obtain ⟨w'', hrun', hdisk', hran'⟩ := hf w' hdisk hran
  exact ⟨w'', (run_bind_ok hrun f).trans hrun', hdisk'.trans hdisk, hran.trans hran'⟩

theorem Does.bind_error {m : Session α} {e : Fault} (hm : Does m w (.error e) cs ts)
    (f : α → Session β) : Does (m >>= f) w (.error e) cs ts := by
  obtain ⟨w', hrun, hdisk, hran⟩ := hm
  exact ⟨w', run_bind_error hrun f, hdisk, hran⟩

/-- A run is followed by a look at its result, which does nothing else. -/
theorem Does.bind_result {m : Session α} {f : α → Session β} {r : Except Fault α}
    {g : α → Except Fault β} (hm : Does m w r cs ts) (hf : ∀ a w', Does (f a) w' (g a) [] []) :
    Does (m >>= f) w (r.bind g) cs ts := by
  cases r with
  | error e => exact hm.bind_error f
  | ok a =>
    have hboth := hm.bind fun w' _ _ => hf a w'
    rwa [List.append_nil, List.append_nil] at hboth

/-- A failed command, and no other failure, is replaced by a result. -/
def forgive (a : α) : Except Fault α → Except Fault α
  | .error (.tool _) => .ok a
  | r => r

theorem Does.orElse {m : Session α} {go : ToolFailure → Session α} {r : Except Fault α} {a : α}
    (hm : Does m w r cs ts) (hgo : ∀ f w', Does (go f) w' (.ok a) [] []) :
    Does (orElseTool m go) w (forgive a r) cs ts := by
  obtain ⟨w', hrun, hdisk, hran⟩ := hm
  have hstep := run_orElseTool m go w
  rw [hrun] at hstep
  cases r with
  | ok b => exact ⟨w', hstep, hdisk, hran⟩
  | error e =>
    cases e with
    | tool f =>
      obtain ⟨w'', hrun', hdisk', hran'⟩ := hgo f w'
      exact ⟨w'', hstep.trans hrun', hdisk'.trans hdisk, hran.quiet hran'⟩
    | _ => exact ⟨w', hstep, hdisk, hran⟩

/-- A run that keeps the tree and is silent does nothing but give its result. -/
theorem Silent.does {m : Session α} (h : Silent m) {w' : World} {r : Except Fault α}
    (hdisk : w'.disk = w.disk) (hrun : m.run w = (r, w')) : Does m w r [] [] :=
  ⟨w', hrun, hdisk, h.ran hrun⟩

theorem does_pure (a : α) (w : World) : Does (pure a) w (.ok a) [] [] :=
  (silent_pure a).does rfl rfl

theorem does_throw (e : Fault) (w : World) : Does (throw e : Session α) w (.error e) [] [] :=
  ⟨w, rfl, rfl, Ran.refl w⟩

theorem does_log (level : LogLevel) (source message : String) (w : World) :
    Does (log level source message) w (.ok ()) [] [] :=
  (silent_log level source message).does (World.disk_noted w _) (run_log level source message w)

theorem does_start (command : List String) (captured : Bool) (w : World) :
    Does (start command captured) w (.ok w.next) [(command, captured)] [] :=
  ⟨_, run_start command captured w, rfl, ran_started w command captured⟩

theorem does_print (s : Stream) (text : String) (w : World) :
    Does (print s text) w (.ok ()) [] [(s, text)] :=
  ⟨_, run_print s text w, rfl, ran_printed w s text⟩

/-- A run that only asks about the tree: the world is as it was, whatever comes of it. -/
structure Asks (m : Session α) : Prop where
  still : ∀ w, (m.run w).2 = w
  congr : ∀ w w', w'.disk = w.disk → (m.run w').1 = (m.run w).1

theorem Asks.run {m : Session α} (h : Asks m) (w : World) : m.run w = ((m.run w).1, w) :=
  Prod.ext rfl (h.still w)

theorem Asks.does {m : Session α} (h : Asks m) (w : World) : Does m w (m.run w).1 [] [] :=
  ⟨w, h.run w, rfl, Ran.refl w⟩

theorem asks_pure (a : α) : Asks (pure a) := ⟨fun _ => rfl, fun _ _ _ => rfl⟩

theorem Asks.bind {m : Session α} {f : α → Session β} (hm : Asks m) (hf : ∀ a, Asks (f a)) :
    Asks (m >>= f) := by
  constructor
  · intro w
    rw [run_bind, hm.run w]
    cases (m.run w).1 with
    | error e => rfl
    | ok a => exact (hf a).still w
  · intro w w' hdisk
    rw [run_bind, run_bind, hm.run w, hm.run w', hm.congr w w' hdisk]
    cases (m.run w).1 with
    | error e => rfl
    | ok a => exact (hf a).congr w w' hdisk

theorem asks_require (r : Except Fault α) : Asks (require r) := by
  constructor
  · intro w
    rw [run_require]
  · intro w w' _
    rw [run_require, run_require]

theorem asks_ask (f : Disk → Except DiskError α) : Asks (ask f) := by
  constructor
  · intro w
    rw [run_ask]
  · intro w w' hdisk
    rw [run_ask, run_ask, hdisk]

theorem asks_filterM {f : α → Session Bool} (hf : ∀ x, Asks (f x)) (xs : List α) :
    Asks (xs.filterM f) := by
  have key (acc : List α) : Asks (List.filterAuxM f xs acc) := by
    induction xs generalizing acc with
    | nil => exact asks_pure acc
    | cons x xs ih => exact (hf x).bind fun _ => ih _
  exact (key []).bind fun _ => asks_pure _

/-- Where every question has an answer, what the answer is positive for is kept. -/
theorem run_filterM {f : α → Session Bool} {w : World} {keep : α → Bool} {xs : List α}
    (h : ∀ x ∈ xs, (f x).run w = (.ok (keep x), w)) :
    (xs.filterM f).run w = (.ok (xs.filter keep), w) := by
  have key (acc : List α) : (List.filterAuxM f xs acc).run w =
      (.ok ((xs.filter keep).reverse ++ acc), w) := by
    induction xs generalizing acc with
    | nil => rfl
    | cons x xs ih =>
      have hx := h x List.mem_cons_self
      have hxs := ih (fun y hy => h y (List.mem_cons_of_mem x hy))
      rw [List.filterAuxM, run_bind_ok hx, hxs]
      cases hk : keep x <;> simp [hk]
  rw [List.filterM, run_bind_ok (key [])]
  simp

/-- A series of runs that print one text each. -/
theorem does_forM {f : β → Session Unit} {d : Disk} {text : β → Stream × String} {xs : List β}
    (h : ∀ x w, w.disk = d → Does (f x) w (.ok ()) [] [text x]) {w : World} (hw : w.disk = d) :
    Does (xs.forM f) w (.ok ()) [] (xs.map text) := by
  induction xs generalizing w with
  | nil => exact does_pure () w
  | cons x xs ih => exact (h x w hw).bind fun w' hdisk _ => ih (hdisk.trans hw)

end Session

end BoxWarden
