import BoxWarden.Proofs.CommandLine.Log
import Mathlib.Data.List.Nodup

/-!
The overview of containers. Each name that has grants or a home is there once, in the order in which
it is first met, and no grant is left out or counted twice.
-/

namespace BoxWarden

open Session

theorem nodup_eraseDups (as : List String) : as.eraseDups.Nodup := by
  generalize hn : as.length = n
  induction n using Nat.strongRecOn generalizing as with
  | ind n ih =>
    cases as with
    | nil => simp
    | cons a as =>
      have hle := List.length_filter_le (fun b => !b == a) as
      have hrest := ih _ (by rw [← hn, List.length_cons]; omega) (as.filter fun b => !b == a) rfl
      rw [List.eraseDups_cons, List.nodup_cons]
      exact ⟨by simp [List.mem_eraseDups], hrest⟩

/-- Where every record is of one of the names, each is counted for exactly one of them. The
induction is on the names; the first of them takes its records away from the others. -/
theorem foldr_length_filter {names : List String} (hnodup : names.Nodup) {rs : List Record}
    (hall : ∀ r ∈ rs, r.container ∈ names) :
    (names.map fun n => (rs.filter (·.container = n)).length).foldr (· + ·) 0 = rs.length := by
  induction names generalizing rs with
  | nil =>
    cases rs with
    | nil => rfl
    | cons r rs => exact absurd (hall r List.mem_cons_self) (by simp)
  | cons n names ih =>
    obtain ⟨hn, hnodup⟩ := List.nodup_cons.mp hnodup
    have hothers : ∀ r ∈ rs.filter (fun r => !decide (r.container = n)), r.container ∈ names := by
      intro r hr
      obtain ⟨hr, hne⟩ := List.mem_filter.mp hr
      exact (List.mem_cons.mp (hall r hr)).resolve_left (by simpa using hne)
    have hkept : ∀ m ∈ names, (rs.filter fun r => !decide (r.container = n)).filter
        (fun r => decide (r.container = m)) = rs.filter (fun r => decide (r.container = m)) := by
      intro m hm
      rw [List.filter_filter]
      refine List.filter_congr fun r _ => ?_
      by_cases hrm : r.container = m
      · have hne : r.container ≠ n := by
          rintro rfl
          exact hn (hrm ▸ hm)
        simp [hrm, hrm ▸ hne]
      · simp [hrm]
    have hsum := ih hnodup hothers
    rw [List.map_congr_left fun m hm => congrArg List.length (hkept m hm)] at hsum
    rw [List.map_cons, List.foldr_cons, hsum, List.length_eq_length_filter_add (l := rs)
      (fun r => decide (r.container = n))]

namespace Store

variable {s : Store} {w : World} {t : String}

theorem does_containers (ht : w.disk.textAt s.path = .ok t) :
    Does s.containers w (.ok ((grantsIn t).map Record.container).eraseDups) [] [] := by
  obtain ⟨w', hw', hrun⟩ := run_containers s w
  rw [ht] at hrun
  exact (s.silent_records.bind fun _ => silent_pure _).does hw' hrun

theorem does_list (ht : w.disk.textAt s.path = .ok t) (container : String) :
    Does (s.list container) w (.ok ((grantsIn t).filter (·.container = container))) [] [] := by
  obtain ⟨w', hw', hrun⟩ := run_list s w container
  rw [ht] at hrun
  exact (s.silent_list container).does hw' hrun

end Store

/-- Where the containers are known, the file is a text that can be read, and they are those of its
grants. -/
theorem Store.exists_of_containers {s : Store} {w : World} {named : List String}
    (h : (s.containers.run w).1 = .ok named) : ∃ t, w.disk.textAt s.path = .ok t ∧
      named = ((grantsIn t).map Record.container).eraseDups := by
  obtain ⟨w', -, hrun⟩ := run_containers s w
  rw [hrun] at h
  cases ht : w.disk.textAt s.path with
  | error e =>
    rw [ht] at h
    cases h
  | ok t =>
    rw [ht] at h
    exact ⟨t, rfl, (Except.ok.inj h).symm⟩

namespace CommandLine

variable {env : Environment} {args : List String} {i : Invocation} {namesOnly : Bool}
  {store : Store} {w w₁ : World} {t : String} {homes : List String}

/-- The lines of the overview, or the names alone. -/
def overviewLines (namesOnly : Bool) (rs : List Record) (names : List String) : List String :=
  if namesOnly then names
  else if names = [] then ["No containers configured."]
  else "Containers:" :: names.map fun n =>
    "  " ++ n ++ " (" ++ toString (rs.filter (·.container = n)).length ++ " grant(s))"

/-- Lines as texts that are printed. -/
def asTexts (lines : List String) : List (Stream × String) :=
  lines.map fun line => (.out, line ++ "\n")

theorem does_overview (ht : w.disk.textAt store.path = .ok t)
    (hhomes : ((Homes.list env).run w).1 = .ok homes) :
    Does (overview env store) w
      (.ok (((Store.grantsIn t).map Record.container).eraseDups ++ homes).eraseDups) [] [] := by
  have hasks := Homes.asks_list env
  refine (Store.does_containers ht).bind fun w' hdisk _ => ?_
  have hlist := hasks.does w'
  rw [hasks.congr w w' hdisk, hhomes] at hlist
  exact hlist.bind fun w'' _ _ => does_pure _ w''

theorem does_printLine (line : String) (w : World) :
    Does (printLine line) w (.ok ()) [] [(.out, line ++ "\n")] := does_print .out _ w

/-- A series of runs that print one line each. -/
theorem does_lines {f : String → Session Unit} {line : String → String} {names : List String}
    {d : Disk} (h : ∀ n w, w.disk = d → Does (f n) w (.ok ()) [] [(.out, line n ++ "\n")])
    (hw : w.disk = d) :
    Does (do names.forM f; pure 0 : Session Int) w (.ok 0) [] (asTexts (names.map line)) := by
  have hall : Does (names.forM f) w (.ok ()) [] (names.map fun n => (.out, line n ++ "\n")) :=
    does_forM h hw
  have hboth := hall.bind (f := fun _ => (pure 0 : Session Int)) fun w' _ _ => does_pure 0 w'
  simp only [List.append_nil] at hboth
  rw [asTexts, List.map_map]
  exact hboth

/-- The overview, with one line for each container, whose grants are read anew. -/
theorem does_runList_none (ht : w.disk.textAt store.path = .ok t)
    (hhomes : ((Homes.list env).run w).1 = .ok homes) (namesOnly : Bool) :
    Does (runList env store none namesOnly) w (.ok 0) []
      (asTexts (overviewLines namesOnly (Store.grantsIn t)
        (((Store.grantsIn t).map Record.container).eraseDups ++ homes).eraseDups)) := by
  generalize hnames :
    (((Store.grantsIn t).map Record.container).eraseDups ++ homes).eraseDups = names
  have hoverview := does_overview ht hhomes
  rw [hnames] at hoverview
  refine hoverview.bind fun w₁ hdisk _ => ?_
  cases namesOnly with
  | true =>
    have hlines : Does (do names.forM printLine; pure 0 : Session Int) w₁ (.ok 0) []
        (asTexts (names.map fun n => n)) := does_lines (fun n w' _ => does_printLine n w') hdisk
    rwa [List.map_id'] at hlines
  | false =>
    simp only [overviewLines, Bool.false_eq_true, if_false]
    split
    · exact (does_printLine _ w₁).bind fun w' _ _ => does_pure 0 w'
    · refine (does_printLine _ w₁).bind fun w₂ hdisk₂ _ => ?_
      refine does_lines (d := w.disk) (fun n w' hw' => ?_) (hdisk₂.trans hdisk)
      exact (Store.does_list (hw' ▸ ht) n).bind fun w'' _ _ => does_printLine _ w''

/-- The overview is complete and exact. Once the log is open, let there be containers with grants and
containers with homes. Then the overview ends well. It has an entry for each of them and no more, in
the order in which they are met, with the number of its grants; only where there are none it says so
instead. No grant is left out or counted twice, and a home without grants counts none. Nothing is
started, and nothing but the log is changed. -/
theorem overview_is_exact (hparse : parse args = .invocation i)
    (hlist : i.request = .list none namesOnly) (hlog : (openLog env i).run w = (.ok (), w₁))
    (hstore : storeOf env i = .ok store) {named : List String}
    (hnamed : (store.containers.run w₁).1 = .ok named)
    (hhomes : ((Homes.list env).run w₁).1 = .ok homes) :
    ∃ (names : List String) (rs : List Record) (lines : List String) (w' : World),
      names = (named ++ homes).eraseDups ∧ (store.records.run w₁).1 = .ok rs ∧
      (∀ n, ((store.list n).run w₁).1 = .ok (rs.filter (·.container = n))) ∧
      (run env args).run w = (.ok (.returned 0), w') ∧
      Ran { w with echo := i.verbose } w' [] (lines.map fun l => (.out, l ++ "\n")) ∧
      w'.disk = w₁.disk ∧ ButLog env w.disk w'.disk ∧
      (namesOnly = true → lines = names) ∧
      (namesOnly = false →
        ("No containers configured." ∈ lines ↔ names = []) ∧
        (names = [] → lines = ["No containers configured."]) ∧
        (names ≠ [] → lines = "Containers:" :: names.map fun n =>
          "  " ++ n ++ " (" ++ toString (rs.filter (·.container = n)).length ++ " grant(s))")) ∧
      names.Nodup ∧
      (names.map fun n => (rs.filter (·.container = n)).length).foldr (· + ·) 0 = rs.length ∧
      (∀ r ∈ rs, names.count r.container = 1) ∧
      ∀ n ∈ homes, names.count n = 1 ∧ (n ∉ named → (rs.filter (·.container = n)).length = 0) := by
  obtain ⟨t, ht, rfl⟩ := Store.exists_of_containers hnamed
  have hcontainer (r : Record) (hr : r ∈ Store.grantsIn t) :
      r.container ∈ ((Store.grantsIn t).map Record.container).eraseDups :=
    List.mem_eraseDups.mpr (List.mem_map_of_mem hr)
  obtain ⟨w', hcarry, hdisk, hran⟩ := does_runList_none ht hhomes namesOnly
  rw [← show carryOut env store i = runList env store none namesOnly by rw [carryOut, hlist]]
    at hcarry
  generalize ((Store.grantsIn t).map Record.container).eraseDups = named at *
  have hnodup := nodup_eraseDups (named ++ homes)
  have hcount {n : String} (hn : n ∈ named ++ homes) : (named ++ homes).eraseDups.count n = 1 :=
    List.count_eq_one_of_mem hnodup (List.mem_eraseDups.mpr hn)
  have hrecords : (store.records.run w₁).1 = .ok (Store.grantsIn t) := by
    obtain ⟨w₂, -, hrun⟩ := store.run_records w₁
    rw [hrun, ht]
    rfl
  refine ⟨_, Store.grantsIn t, _, w', rfl, hrecords, store.list_of_textAt w₁ ht,
    run_of_openLog hparse (by simp [hlist]) hlog hstore (run_tryCatch_ok hcarry report),
    (ran_openLog hlog).trans hran, hdisk, hdisk ▸ butLog_openLog hlog, ?_, ?_, hnodup,
    foldr_length_filter hnodup ?_, ?_, ?_⟩
  · rintro rfl
    rfl
  · rintro rfl
    generalize (named ++ homes).eraseDups = names
    by_cases hnone : names = []
    · simp [overviewLines, hnone]
    · -- an entry is indented, so it is not taken for the line that says there are none
      have hentry (n count : String) :
          "  " ++ n ++ " (" ++ count ++ " grant(s))" ≠ "No containers configured." := by
        intro h
        have hhead := congrArg (fun l : String => l.toList.head?) h
        simp at hhead
      simp [overviewLines, hnone, hentry]
  · intro r hr
    exact List.mem_eraseDups.mpr (List.mem_append_left _ (hcontainer r hr))
  · intro r hr
    exact hcount (List.mem_append_left _ (hcontainer r hr))
  · intro n hn
    refine ⟨hcount (List.mem_append_right _ hn), fun hne => ?_⟩
    rw [List.length_eq_zero_iff, List.filter_eq_nil_iff]
    intro r hr heq
    exact hne (of_decide_eq_true heq ▸ hcontainer r hr)

/-- The desk with the homes of two containers, one of which has grants. -/
def homesDesk : Disk where
  nodes := Store.desk.nodes ++ [
    (["home", "data"], .dir 0o755),
    (["home", "data", "distrobox-secure"], .dir 0o755),
    (["home", "data", "distrobox-secure", "homes"], .dir 0o755),
    (["home", "data", "distrobox-secure", "homes", "dev"], .dir 0o700),
    (["home", "data", "distrobox-secure", "homes", "a note"], .file 0o644 ByteArray.empty),
    (["home", "data", "distrobox-secure", "homes", "bare"], .dir 0o700)]
  cwd := ["home"]

def homesUser : Environment := { deskUser with dataHome := some "data" }

/-- The world in which the overview of the desk is made. -/
def homesOpen : World :=
  ((openLog homesUser { request := .list none false }).run { disk := homesDesk }).2

theorem overview_is_exact_desk : ∃ w',
    (run homesUser ["list"]).run { disk := homesDesk } = (.ok (.returned 0), w') ∧
      Ran { disk := homesDesk } w' [] [(.out, "Containers:\n"), (.out, "  dev (1 grant(s))\n"),
        (.out, "  bare (0 grant(s))\n")] := by
  have hparse : parse ["list"] = .invocation { request := .list none false } := by decide +kernel
  have hlog : (openLog homesUser { request := .list none false }).run { disk := homesDesk } =
      (.ok (), homesOpen) := rfl
  have hnamed : (Store.deskStore.containers.run homesOpen).1 = .ok ["dev"] := rfl
  have hhomes : ((Homes.list homesUser).run homesOpen).1 = .ok ["bare", "dev"] := by
    have hfound : (Homes.list homesUser).run homesOpen =
        (.ok ((["dev", "a note", "bare"].filter (· != "a note")).mergeSort fun a b =>
          decide (a ≤ b)), homesOpen) := Homes.run_list rfl rfl rfl (by decide)
    have hsorted : ¬ "dev" ≤ "bare" := by decide
    rw [hfound]
    simp [List.mergeSort, List.MergeSort.Internal.splitInTwo, hsorted]
  obtain ⟨names, rs, lines, w', hnames, hrecords, -, hrun, hran, -, -, -, hlines, -⟩ :=
    overview_is_exact hparse rfl hlog rfl hnamed hhomes
  obtain rfl : rs = [⟨"dev", .gpu, "1"⟩] := (Except.ok.inj hrecords).symm
  obtain rfl : names = ["dev", "bare"] := hnames
  obtain rfl := (hlines rfl).2.2 (by simp)
  exact ⟨w', hrun, hran⟩

end CommandLine

end BoxWarden
