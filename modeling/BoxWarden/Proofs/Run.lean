import BoxWarden.Session

/-!
Runs of operations that keep a state when they fail. Every operation, on a tree of files or on a
world, is opened by the equations here: what a step answers, and the state it leaves behind.
-/

namespace BoxWarden

section
variable {ε σ α β : Type}

/-- The first failure ends a run, with the state it has come to. -/
theorem run_bind (m : ExceptT ε (StateM σ) α) (f : α → ExceptT ε (StateM σ) β) (s : σ) :
    (m >>= f).run s = match m.run s with
      | (.ok a, t) => (f a).run t
      | (.error e, t) => (.error e, t) := by
  have hstep : (m >>= f).run s = ExceptT.bindCont f (m.run s).1 (m.run s).2 := rfl
  rw [hstep]
  obtain ⟨a | e, t⟩ := m.run s <;> rfl

theorem run_bind_ok {m : ExceptT ε (StateM σ) α} {s t : σ} {a : α} (h : m.run s = (.ok a, t))
    (f : α → ExceptT ε (StateM σ) β) : (m >>= f).run s = (f a).run t := by
  rw [run_bind, h]

theorem run_bind_error {m : ExceptT ε (StateM σ) α} {s t : σ} {e : ε} (h : m.run s = (.error e, t))
    (f : α → ExceptT ε (StateM σ) β) : (m >>= f).run s = (.error e, t) := by
  rw [run_bind, h]

/-- A run that succeeds has succeeded at each step. -/
theorem exists_of_run_bind_ok {m : ExceptT ε (StateM σ) α} {f : α → ExceptT ε (StateM σ) β}
    {s t : σ} {b : β} (h : (m >>= f).run s = (.ok b, t)) :
    ∃ a s', m.run s = (.ok a, s') ∧ (f a).run s' = (.ok b, t) := by
  rw [run_bind] at h
  generalize m.run s = x at h
  obtain ⟨e | a, s'⟩ := x
  · cases h
  · exact ⟨a, s', rfl, h⟩

@[simp] theorem run_pure (a : α) (s : σ) :
    (pure a : ExceptT ε (StateM σ) α).run s = (.ok a, s) := rfl

@[simp] theorem run_get (s : σ) : (get : ExceptT ε (StateM σ) σ).run s = (.ok s, s) := rfl

@[simp] theorem run_modify (f : σ → σ) (s : σ) :
    (modify f : ExceptT ε (StateM σ) PUnit).run s = (.ok ⟨⟩, f s) := rfl

theorem run_map (f : α → β) (m : ExceptT ε (StateM σ) α) (s : σ) :
    (f <$> m).run s = match m.run s with
      | (.ok a, t) => (.ok (f a), t)
      | (.error e, t) => (.error e, t) := by
  rw [map_eq_pure_bind, run_bind]
  generalize m.run s = x
  obtain ⟨a | e, t⟩ := x <;> rfl

/-- What follows the end of a run whose failure is caught. -/
def caught (f : ε → ExceptT ε (StateM σ) α) : Except ε α → StateM σ (Except ε α)
  | .ok a => pure (.ok a)
  | .error e => (f e).run

theorem run_tryCatch (m : ExceptT ε (StateM σ) α) (f : ε → ExceptT ε (StateM σ) α) (s : σ) :
    (tryCatch m f).run s = match m.run s with
      | (.ok a, t) => (.ok a, t)
      | (.error e, t) => (f e).run t := by
  have hstep : (tryCatch m f).run s = caught f (m.run s).1 (m.run s).2 := rfl
  rw [hstep]
  obtain ⟨a | e, t⟩ := m.run s <;> rfl

theorem run_tryCatch_ok {m : ExceptT ε (StateM σ) α} {s t : σ} {a : α} (h : m.run s = (.ok a, t))
    (f : ε → ExceptT ε (StateM σ) α) : (tryCatch m f).run s = (.ok a, t) := by
  rw [run_tryCatch, h]

theorem run_tryCatch_error {m : ExceptT ε (StateM σ) α} {s t : σ} {e : ε}
    (h : m.run s = (.error e, t)) (f : ε → ExceptT ε (StateM σ) α) :
    (tryCatch m f).run s = (f e).run t := by
  rw [run_tryCatch, h]

end

namespace DiskM

variable {α : Type}

@[simp] theorem run_ask (f : Disk → Except DiskError α) (d : Disk) :
    (ask f).run d = (f d, d) := by
  rw [ask, run_bind_ok (run_get d)]
  cases f d <;> rfl

theorem run_change (f : Disk → Except DiskError Disk) (d : Disk) :
    (change f).run d = match f d with
      | .ok d' => (.ok (), d')
      | .error e => (.error e, d) := by
  rw [change, run_bind_ok (run_get d)]
  cases f d <;> rfl

end DiskM

namespace World

/-- The world with an entry in its log, which is printed too under `echo`. -/
def noted (w : World) (e : LogEntry) : World :=
  if w.echo then (w.emit (.logged e)).emit (.printed .err (e.line ++ "\n")) else w.emit (.logged e)

@[simp] theorem disk_noted (w : World) (e : LogEntry) : (w.noted e).disk = w.disk := by
  unfold noted
  split <;> rfl

@[simp] theorem disk_foldl_noted (es : List LogEntry) (w : World) :
    (es.foldl noted w).disk = w.disk := by
  induction es generalizing w with
  | nil => rfl
  | cons e es ih => rw [List.foldl_cons, ih, disk_noted]

end World

namespace Session

variable {α β : Type}

@[simp] theorem run_require (r : Except Fault α) (w : World) : (require r).run w = (r, w) := by
  cases r <;> rfl

@[simp] theorem run_ask (f : Disk → Except DiskError α) (w : World) :
    (ask f).run w = ((f w.disk).mapError Fault.disk, w) := by
  rw [ask, run_bind_ok (run_get w), run_require]

/-- An operation on the tree changes nothing else in the world. -/
theorem run_onDisk (m : DiskM α) (w : World) :
    (onDisk m).run w =
      ((m.run w.disk).1.mapError Fault.disk, { w with disk := (m.run w.disk).2 }) := by
  rw [onDisk, run_bind_ok (run_get w)]
  exact run_require _ _

@[simp] theorem run_log (level : LogLevel) (source message : String) (w : World) :
    (log level source message).run w = (.ok (), w.noted ⟨level, source, message⟩) := by
  rw [log, run_bind_ok (run_modify _ w), run_bind_ok (run_get _)]
  by_cases h : w.echo <;> simp [World.noted, World.emit, print, h]

/-- A series of entries goes to the log in order. -/
theorem run_forM_log (f : β → LogEntry) (xs : List β) (w : World) :
    (xs.forM fun x => log (f x).level (f x).source (f x).message).run w =
      (.ok (), (xs.map f).foldl World.noted w) := by
  induction xs generalizing w with
  | nil => rfl
  | cons x xs ih =>
    rw [List.forM, run_bind_ok (run_log _ _ _ w), ih]
    rfl

end Session

end BoxWarden
