import BoxWarden.Proofs.Compile.Isolation
import BoxWarden.Proofs.Run

/-!
The isolation of a container over a series of operations. A namespace that is shared stays shared,
and the switch for all the rest is as it was last set. A namespace is shared by its name, and a name
that is not known changes nothing.
-/

namespace BoxWarden

/-- A name is the name of a namespace exactly if it is one of five. -/
theorem Namespace.ofName?_eq_none_iff {s : String} :
    ofName? s = none ↔ s ∉ ["netns", "devsys", "groups", "ipc", "process"] := by
  have hnames : ["netns", "devsys", "groups", "ipc", "process"] = all.map name := rfl
  rw [hnames]
  simp [ofName?, List.find?_eq_none]

theorem Namespace.flag_eq (n : Namespace) : n.flag = "--unshare-" ++ n.name := by
  cases n <;> decide

namespace Isolation

/-- An operation on the isolation of a container. -/
inductive Operation
  | share (name : String)
  | shareAll
  | setRest (on : Bool)
deriving DecidableEq, Repr

namespace Operation

/-- Carries out an operation. One that fails keeps the state that it has come to. -/
def perform : Operation → ExceptT Fault (StateM Isolation) Unit
  | .share name => do
    match (← get).shareNamed name with
    | .ok s => set s
    | .error e => throw e
  | .shareAll => modify Isolation.shareAll
  | .setRest on => modify (·.setRest on)

/-- Whether an operation shares a namespace. -/
def shares : Operation → Namespace → Bool
  | .share name, n => name == n.name
  | .shareAll, _ => true
  | .setRest _, _ => false

/-- The value that an operation gives to the switch for all the rest. -/
def rest? : Operation → Option Bool
  | .share _ => none
  | .shareAll => some false
  | .setRest on => some on

/-- The failure of an operation, if it fails. -/
def failure? : Operation → Option Fault
  | .share name =>
    if name ∈ ["netns", "devsys", "groups", "ipc", "process"] then none
    else some (.unknownNamespace name)
  | _ => none

theorem run_share_name (n : Namespace) (s : Isolation) :
    (share n.name).perform.run s = (.ok (), s.share n) := by
  rw [perform, run_bind_ok (run_get s), shareNamed, Namespace.ofName?_name]
  rfl

theorem run_share_of_none {name : String} (h : Namespace.ofName? name = none) (s : Isolation) :
    (share name).perform.run s = (.error (.unknownNamespace name), s) := by
  rw [perform, run_bind_ok (run_get s), shareNamed, h]
  rfl

/-- To share a namespace by name fails exactly if the name is not known, and changes nothing then. -/
theorem run_share_eq_error_iff (name : String) (s : Isolation) (e : Fault) (t : Isolation) :
    (share name).perform.run s = (.error e, t) ↔
      name ∉ ["netns", "devsys", "groups", "ipc", "process"] ∧ e = .unknownNamespace name ∧
        t = s := by
  rw [← Namespace.ofName?_eq_none_iff]
  cases hname : Namespace.ofName? name with
  | none =>
    rw [run_share_of_none hname]
    constructor
    · rintro ⟨⟩
      exact ⟨rfl, rfl, rfl⟩
    · rintro ⟨-, rfl, rfl⟩
      rfl
  | some n =>
    obtain rfl := Namespace.name_of_ofName? hname
    rw [run_share_name]
    constructor
    · rintro ⟨⟩
    · rintro ⟨⟨⟩, -⟩

/-- All that an operation can do: it fails without a change, or it shares what it names and sets the
switch that it gives a value. -/
theorem perform_cases (op : Operation) (s : Isolation) :
    (∃ e, op.failure? = some e ∧ op.perform.run s = (.error e, s) ∧ op.rest? = none ∧
      ∀ n, op.shares n = false) ∨
    ∃ t, op.failure? = none ∧ op.perform.run s = (.ok (), t) ∧ t.rest = op.rest?.getD s.rest ∧
      ∀ n, t.has n = (s.has n && !op.shares n) := by
  cases op with
  | share name =>
    cases hname : Namespace.ofName? name with
    | none =>
      refine .inl ⟨_, if_neg (Namespace.ofName?_eq_none_iff.mp hname), run_share_of_none hname s, rfl,
        fun n => ?_⟩
      rw [shares, beq_eq_false_iff_ne]
      rintro rfl
      rw [Namespace.ofName?_name] at hname
      cases hname
    | some m =>
      obtain rfl := Namespace.name_of_ofName? hname
      have hknown : m.name ∈ ["netns", "devsys", "groups", "ipc", "process"] := by
        cases m <;> decide
      refine .inr ⟨_, if_pos hknown, run_share_name m s, rest_share s m, fun n => ?_⟩
      rw [has_share, shares]
      cases m <;> cases n <;> rfl
  | shareAll => exact .inr ⟨_, rfl, run_modify _ s, rfl, fun n => by simp [shares]⟩
  | setRest on => exact .inr ⟨_, rfl, run_modify _ s, rfl, fun n => by simp [shares]⟩

end Operation

/-- The answers to a series of operations, and the state it leads to. One that fails does not keep
the others from being carried out. -/
def performAll (s : Isolation) : List Operation → List (Except Fault Unit) × Isolation
  | [] => ([], s)
  | op :: ops =>
    let (answer, t) := op.perform.run s
    let (answers, u) := performAll t ops
    (answer :: answers, u)

theorem performAll_cons (s : Isolation) (op : Operation) (ops : List Operation) :
    s.performAll (op :: ops) =
      ((op.perform.run s).1 :: ((op.perform.run s).2.performAll ops).1,
        ((op.perform.run s).2.performAll ops).2) := rfl

/-- The answers do not depend on the state. -/
theorem answers_performAll (ops : List Operation) (s : Isolation) :
    (s.performAll ops).1 = ops.map fun op => op.failure?.elim (.ok ()) .error := by
  induction ops generalizing s with
  | nil => rfl
  | cons op ops ih =>
    rw [performAll_cons, ih, List.map_cons]
    obtain ⟨e, hfailure, hrun, -⟩ | ⟨t, hfailure, hrun, -⟩ := op.perform_cases s
    · rw [hrun, hfailure]
      rfl
    · rw [hrun, hfailure]
      rfl

/-- What one operation leaves isolated. -/
theorem has_perform (op : Operation) (s : Isolation) (n : Namespace) :
    (op.perform.run s).2.has n = (s.has n && !op.shares n) := by
  obtain ⟨e, -, hrun, -, hshares⟩ | ⟨t, -, hrun, -, hhas⟩ := op.perform_cases s
  · rw [hrun, hshares, Bool.not_false, Bool.and_true]
  · rw [hrun, hhas]

theorem rest_perform (op : Operation) (s : Isolation) :
    (op.perform.run s).2.rest = op.rest?.getD s.rest := by
  obtain ⟨e, -, hrun, hrest, -⟩ | ⟨t, -, hrun, hrest, -⟩ := op.perform_cases s
  · rw [hrun, hrest]
    rfl
  · rw [hrun, hrest]

/-- A namespace is left isolated as long as no operation shares it. -/
theorem has_performAll (ops : List Operation) (s : Isolation) (n : Namespace) :
    (s.performAll ops).2.has n = (s.has n && !ops.any (·.shares n)) := by
  induction ops generalizing s with
  | nil => simp [performAll]
  | cons op ops ih =>
    rw [performAll_cons, ih, has_perform, List.any_cons, Bool.not_or, Bool.and_assoc]

/-- The switch keeps the last value that it is given. -/
theorem rest_performAll (ops : List Operation) (s : Isolation) :
    (s.performAll ops).2.rest = ((ops.filterMap Operation.rest?).getLast?).getD s.rest := by
  induction ops generalizing s with
  | nil => rfl
  | cons op ops ih =>
    rw [performAll_cons, ih, rest_perform, List.filterMap_cons]
    cases op.rest? with
    | none => rfl
    | some on =>
      rw [List.getLast?_cons]
      rfl

/-- An operation shares a namespace if it is one that names it, and is answered so, or one that
shares all. -/
theorem any_shares_iff (ops : List Operation) (s : Isolation) (n : Namespace) :
    ops.any (·.shares n) = true ↔
      (Operation.share n.name, .ok ()) ∈ ops.zip (s.performAll ops).1 ∨
        Operation.shareAll ∈ ops := by
  rw [answers_performAll, ← List.map_prod_left_eq_zip, List.any_eq_true, List.mem_map]
  constructor
  · rintro ⟨op, hop, hshares⟩
    cases op with
    | share name =>
      obtain rfl : name = n.name := by simpa [Operation.shares] using hshares
      have hok : (Operation.share n.name).failure? = none := by cases n <;> decide
      exact .inl ⟨_, hop, by rw [hok]; rfl⟩
    | shareAll => exact .inr hop
    | setRest on => cases hshares
  · rintro (⟨op, hop, heq⟩ | hall)
    · obtain ⟨rfl, -⟩ := Prod.mk.inj heq
      exact ⟨_, hop, beq_self_eq_true _⟩
    · exact ⟨_, hall, rfl⟩

theorem flags_eq_map (s : Isolation) :
    s.flags = s.isolated.map (fun n => "--unshare-" ++ n.name) ++
      if s.rest then ["--unshare-all"] else [] := by
  rw [flags, funext Namespace.flag_eq]

theorem isolated_sublist (s : Isolation) :
    (s.isolated.map Namespace.name).Sublist ["netns", "devsys", "groups", "ipc", "process"] :=
  List.filter_sublist.map Namespace.name

theorem mem_isolated {s : Isolation} {n : Namespace} : n ∈ s.isolated ↔ s.has n = true := by
  rw [isolated, List.mem_filter]
  exact and_iff_right n.mem_all

/-- A new container after any series of operations. To share a namespace by name fails exactly if
the name is none of the five, of which the switch for all the rest is not one, and then nothing is
changed. In the end a namespace is isolated unless it has been shared, by its name or with all; and
the switch is as it was last set, where to share all turns it off. After each of the operations the
namespaces that are isolated stand in the order of the five, and the flags are those of exactly
these, each once and in that order, with the flag for all the rest at the end if the switch is on. -/
theorem isolation_of_series (ops : List Operation) :
    let answers := (performAll {} ops).1
    let s := (performAll {} ops).2
    (∀ (name : String) (t : Isolation) (e : Fault) (u : Isolation),
      (Operation.share name).perform.run t = (.error e, u) ↔
        name ∉ ["netns", "devsys", "groups", "ipc", "process"] ∧ e = .unknownNamespace name ∧
          u = t) ∧
    (∀ t : Isolation,
      (Operation.share "all").perform.run t = (.error (.unknownNamespace "all"), t)) ∧
    (∀ n : Namespace, s.has n = true ↔
      (Operation.share n.name, .ok ()) ∉ ops.zip answers ∧ Operation.shareAll ∉ ops) ∧
    s.rest = ((ops.filterMap fun
      | .share _ => none
      | .shareAll => some false
      | .setRest on => some on).getLast?).getD false ∧
    ∀ k, let t := (performAll {} (ops.take k)).2
      (t.isolated.map Namespace.name).Sublist ["netns", "devsys", "groups", "ipc", "process"] ∧
      (∀ n : Namespace, n ∈ t.isolated ↔ t.has n = true) ∧
      t.flags = t.isolated.map (fun n => "--unshare-" ++ n.name) ++
        (if t.rest then ["--unshare-all"] else []) ∧
      t.flags.Nodup := by
  intro answers s
  refine ⟨Operation.run_share_eq_error_iff, fun t => ?_, fun n => ?_, ?_, fun k => ?_⟩
  · exact Operation.run_share_of_none (by decide) t
  · have hnew : ({} : Isolation).has n = true := by cases n <;> rfl
    rw [has_performAll, hnew, Bool.true_and, Bool.not_eq_true', ← Bool.not_eq_true,
      any_shares_iff ops {} n, not_or]
  · exact rest_performAll ops {}
  · exact ⟨isolated_sublist _, fun n => mem_isolated, flags_eq_map _, nodup_flags _⟩

end Isolation

end BoxWarden
