import BoxWarden.Proofs.Deeds
import BoxWarden.Tool

/-!
What commands of the container program come to, by the replies to their calls. A failed list, stop
or removal is forgiven, and so is a missing program: only a call that fails for another reason keeps
a container from being taken down.
-/

namespace BoxWarden

/-- Why the call of a program fails, unless the program is missing. -/
def Reply.refusal? : Reply → Option DiskError
  | .refused e => if e = .notFound then none else some e
  | .ended .. => none

def Reply.succeeded : Reply → Bool
  | .ended code .. => code = 0
  | .refused _ => false

/-- The result of a command whose failure is forgiven. -/
def Reply.forgiven (r : Reply) (a : α) : Except Fault α :=
  match r.refusal? with
  | some e => .error (.disk e)
  | none => .ok a

theorem Reply.ended_or_missing {r : Reply} (h : r.refusal? = none) :
    (∃ code out err, r = .ended code out err) ∨ r = .refused .notFound := by
  cases r with
  | ended code out err => exact .inl ⟨code, out, err, rfl⟩
  | refused e =>
    cases e with
    | notFound => exact .inr rfl
    | _ => cases h

theorem Reply.forgiven_of_some {r : Reply} {e : DiskError} (h : r.refusal? = some e) (a : α) :
    r.forgiven a = .error (.disk e) := by
  rw [forgiven, h]

theorem Reply.forgiven_of_none {r : Reply} (h : r.refusal? = none) (a : α) :
    r.forgiven a = .ok a := by
  rw [forgiven, h]

namespace Tool

open Session

/-- What a command comes to. -/
def outcome (command : List String) : Reply → Except Fault Outcome
  | .ended code out err => .ok ⟨code, out, err⟩
  | .refused .notFound =>
    match command with
    | [] => .error .noProgram
    | name :: _ => .error (.tool ⟨command, none, name ++ " not found on PATH"⟩)
  | .refused e => .error (.disk e)

/-- The command that lists the containers. -/
def listCommand : List String := [program, "list", "--no-color"]

/-- What a list command comes to. -/
def table (r : Reply) : Except Fault (List ListedContainer) :=
  (outcome listCommand r).bind fun o =>
    if o.code = 0 then .ok (Listing.parse o.out)
    else .error (.tool ⟨listCommand, some o.code, Text.trim o.err⟩)

/-- What a create command comes to. -/
def created (command : List String) (r : Reply) : Except Fault Unit :=
  (outcome command r).bind fun o =>
    if o.code = 0 then .ok () else .error (.tool ⟨command, some o.code, ""⟩)

/-- What a list command tells of a container. -/
def listed (name : String) : Reply → Option ListedContainer
  | .ended code out _ => if code = 0 then (Listing.parse out).find? (·.name = name) else none
  | .refused _ => none

variable {w : World}

theorem does_run (command : List String) (captured : Bool) (w : World) :
    Does (run command captured) w (outcome command w.next) [(command, captured)] [] := by
  refine (does_log _ _ _ w).bind fun w₁ _ hran => ?_
  rw [← show w₁.next = w.next from hran.next]
  refine (does_start command captured w₁).bind fun w₂ _ _ => ?_
  cases w₁.next with
  | ended code out err => exact does_pure _ w₂
  | refused e =>
    cases e with
    | notFound => cases command <;> exact does_throw _ w₂
    | _ => exact does_throw _ w₂

/-- A command whose failure is only noted says whether it succeeded. -/
theorem does_attempt (p : String) (args : List String) (verb failed name : String) (w : World) :
    Does (attempt (p :: args) verb failed name) w (w.next.forgiven w.next.succeeded)
      [(p :: args, true)] [] := by
  have hforgiven : w.next.forgiven w.next.succeeded =
      forgive false ((outcome (p :: args) w.next).bind fun o => .ok (decide (o.code = 0))) := by
    cases w.next with
    | ended code out err => rfl
    | refused e => cases e <;> rfl
  rw [hforgiven]
  refine ((does_run (p :: args) true w).bind_result fun o w' => ?_).orElse fun f w' =>
    (does_log _ _ _ w').bind fun w'' _ _ => does_pure false w''
  by_cases hcode : o.code = 0
  · rw [if_neg (by simpa using hcode), decide_eq_true hcode]
    exact does_pure true w'
  · rw [if_pos hcode, decide_eq_false hcode]
    exact (does_log _ _ _ w').bind fun w'' _ _ => does_pure false w''

theorem does_list (w : World) : Does list w (table w.next) [(listCommand, true)] [] := by
  refine (does_run listCommand true w).bind_result fun o w' => ?_
  by_cases hcode : o.code = 0
  · rw [if_pos hcode, if_neg (by simpa using hcode)]
    exact does_pure _ w'
  · rw [if_neg hcode, if_pos hcode]
    exact (does_throw _ w').bind_error _

theorem does_find? (name : String) (w : World) :
    Does (find? name) w ((table w.next).bind fun cs => .ok (cs.find? (·.name = name)))
      [(listCommand, true)] [] :=
  (does_list w).bind_result fun _ w' => does_pure _ w'

/-- A list that cannot be had tells of no container. -/
theorem does_findOrNone (source name : String) (w : World) :
    Does (findOrNone source name) w (w.next.forgiven (listed name w.next)) [(listCommand, true)]
      [] := by
  have hforgiven : w.next.forgiven (listed name w.next) =
      forgive none ((table w.next).bind fun cs => .ok (cs.find? (·.name = name))) := by
    cases w.next with
    | ended code out err =>
      by_cases hcode : code = 0 <;>
        simp [Reply.forgiven, Reply.refusal?, listed, table, outcome, Except.bind, forgive, hcode]
    | refused e => cases e <;> rfl
  rw [hforgiven]
  exact (does_find? name w).orElse fun f w' =>
    (does_log _ _ _ w').bind fun w'' _ _ => does_pure none w''

/-- A run starts these commands and gives a result, whatever they come to; or the call of one of
them fails although the program is there, and nothing comes after it. -/
def Attempts (m : Session α) (w : World) (a : α) (cs : List (List String × Bool)) : Prop :=
  (∀ k < cs.length, (w.reply k).refusal? = none) ∧ Does m w (.ok a) cs [] ∨
    ∃ k e, k < cs.length ∧ (w.reply k).refusal? = some e ∧
      Does m w (.error (.disk e)) (cs.take (k + 1)) []

theorem attempts_pure (a : α) (w : World) : Attempts (pure a) w a [] :=
  .inl ⟨fun _ hk => absurd hk (Nat.not_lt_zero _), does_pure a w⟩

theorem Attempts.cons {m : Session α} {f : α → Session β} {a : α} {b : β} {c : List String × Bool}
    {cs : List (List String × Bool)} (hm : Does m w (w.next.forgiven a) [c] [])
    (hf : ∀ w₁, Ran w w₁ [c] [] → Attempts (f a) w₁ b cs) : Attempts (m >>= f) w b (c :: cs) := by
  cases hnext : w.next.refusal? with
  | some e =>
    rw [Reply.forgiven_of_some hnext] at hm
    exact .inr ⟨0, e, by simp, hnext, hm.bind_error f⟩
  | none =>
    rw [Reply.forgiven_of_none hnext] at hm
    obtain ⟨w₁, hrun, hdisk, hran⟩ := hm
    have hlater (k : Nat) : w₁.reply k = w.reply (k + 1) := by
      rw [hran.reply, List.length_singleton, Nat.add_comm]
    obtain ⟨hreplies, w₂, hrun₂, hdisk₂, hran₂⟩ | ⟨k, e, hk, hreply, w₂, hrun₂, hdisk₂, hran₂⟩ :=
      hf w₁ hran
    · refine .inl ⟨fun k hk => ?_, w₂, (run_bind_ok hrun f).trans hrun₂, hdisk₂.trans hdisk,
        hran.trans hran₂⟩
      cases k with
      | zero => exact hnext
      | succ k => exact hlater k ▸ hreplies k (by simpa using hk)
    · exact .inr ⟨k + 1, e, by simpa using hk, hlater k ▸ hreply, w₂,
        (run_bind_ok hrun f).trans hrun₂, hdisk₂.trans hdisk, hran.trans hran₂⟩

/-- Without such a failed call, the attempt succeeds. -/
theorem Attempts.does {m : Session α} {a : α} {cs : List (List String × Bool)}
    (h : Attempts m w a cs) (hreplies : ∀ k < cs.length, (w.reply k).refusal? = none) :
    Does m w (.ok a) cs [] := by
  obtain ⟨-, h⟩ | ⟨k, e, hk, hreply, -⟩ := h
  · exact h
  · rw [hreplies k hk] at hreply
    cases hreply

/-- The commands that take a container down. -/
def takedown (name : String) : List (List String × Bool) :=
  [(listCommand, true), ([program, "stop", "--yes", name], true),
    ([program, "rm", "--force", name], true)]

theorem attempts_teardown (name : String) (w : World) :
    Attempts (teardown name) w (listed name w.next) (takedown name) := by
  refine .cons (does_findOrNone source name w) fun w₁ _ => ?_
  refine .cons (does_attempt program ["stop", "--yes", name] _ _ name w₁) fun w₂ _ => ?_
  refine .cons (does_attempt program ["rm", "--force", name] _ _ name w₂) fun w₃ _ => ?_
  exact attempts_pure (listed name w.next) w₃

/-- A create command is not forgiven. -/
theorem does_create (command : List String) (w : World) :
    Does (create command) w (created command w.next) [(command, false)] [] := by
  refine (does_run command false w).bind_result fun o w' => ?_
  by_cases hcode : o.code = 0
  · rw [if_pos hcode, if_neg (by simpa using hcode)]
    exact does_log _ _ _ w'
  · rw [if_neg hcode, if_pos hcode]
    exact (does_throw _ w').bind_error _

end Tool

end BoxWarden
