import BoxWarden.Proofs.HomeGround

/-!
Homes that are asked for one after another. The first valid name brings the directory of the homes
with it, and from then on each call settles one place in it. So the order of the calls does not
count, nor how often a name comes.
-/

namespace BoxWarden.Homes

open Session

variable {env : Environment} {p : Path} {d d₀ : Disk} {w : World} {name : String}

/-- What a call for a home answers: its path, or that the name is none. Where the way to the homes
goes up again, what is made on the way can be in the home's place first. -/
inductive Answer (p : Path) (name : String) : Except Fault Path → Prop
  | home (hname : isContainerName name = true) : Answer p name (.ok (p.child name))
  | taken (hname : isContainerName name = true) (hup : ".." ∈ p.parts) :
    Answer p name (.error (.disk .alreadyThere))
  | badName (hname : isContainerName name = false) : Answer p name (.error (.badName name))

/-- One call settles one home. -/
theorem Ground.run_ensure (hg : Ground env p w.disk d₀) (hname : isContainerName name = true)
    (hsize : name.utf8ByteSize ≤ Disk.maxName) : ∃ r w', (ensure env name).run w = (r, w') ∧
      Answer p name r ∧ w'.disk = Homes.settle (d₀.place p) d₀ name := by
  obtain ⟨-, hup⟩ := isPart_of_isContainerName hname
  have hl := hg.locate_child hup hsize (nul_of_isContainerName hname)
  have hmake :=
    (DiskM.run_makeDirs_child hg.wellFormed hg.made hl).trans (hg.run_makeDirHere hl)
  have hrun := Homes.run_ensure ((home_eq_ok_iff hg.dir).mpr ⟨hname, rfl⟩) w
  cases hget : d₀.get? (d₀.place p ++ [name]) with
  | none =>
    rw [if_pos hget] at hmake
    simp only [hg.grown.holds hl hget, hmake] at hrun
    exact ⟨_, _, hrun, .home hname, World.disk_noted _ _⟩
  | some n =>
    obtain ⟨there, hthere⟩ := hg.exists_holds
    cases there with
    | true =>
      obtain rfl := hg.eq_of_holds hthere
      have hholds : w.disk.holds (p.child name) = .ok true := by
        rw [Disk.holds, Disk.stat_of_locate hl hget]
      rw [hholds] at hrun
      exact ⟨_, _, hrun, .home hname, by rw [Homes.settle, hget]⟩
    | false =>
      have hholds : w.disk.holds (p.child name) = .ok false := by
        rcases hg.grown.locate hl with hok | hmissing
        · obtain ⟨m, hparent⟩ := Disk.stat_of_locate_child hok
          rw [Disk.holds, hparent] at hthere
          cases hthere
        · rw [Disk.holds, Disk.stat_of_locate_error hmissing]
      rw [if_neg (by simp [hget])] at hmake
      simp only [hholds, hmake] at hrun
      refine ⟨_, _, hrun, .taken hname (Decidable.byContradiction fun hstraight => ?_), rfl⟩
      rw [hg.place, hg.get?_child hstraight, hg.get?_child_of_not_holds hstraight hthere] at hget
      cases hget

/-- Calls for homes one after another, each with its answer. One that fails does not keep the next
from its turn. -/
def ensureAll (env : Environment) : List String → World → List (String × Except Fault Path) × World
  | [], w => ([], w)
  | name :: names, w =>
    let (r, w₁) := (ensure env name).run w
    let (rs, w₂) := ensureAll env names w₁
    ((name, r) :: rs, w₂)

/-- A series settles the homes of its valid names, in the tree where their directory was made. The
induction is on the names; after the first valid one there is nothing left to make. -/
theorem Ground.ensureAll {names : List String} (hg : Ground env p w.disk d₀)
    (hsize : ∀ name ∈ names, name.utf8ByteSize ≤ Disk.maxName) :
    ((Homes.ensureAll env names w).1.map Prod.fst = names ∧
        ∀ a ∈ (Homes.ensureAll env names w).1, Answer p a.1 a.2) ∧
      (∃ d₁, Ground env p (Homes.ensureAll env names w).2.disk d₁) ∧
      (names.filter isContainerName = [] → (Homes.ensureAll env names w).2 = w) ∧
      (names.filter isContainerName ≠ [] → (Homes.ensureAll env names w).2.disk =
        (names.filter isContainerName).foldl (Homes.settle (d₀.place p)) d₀) := by
  induction names generalizing w d₀ with
  | nil => exact ⟨⟨rfl, by simp [Homes.ensureAll]⟩, ⟨d₀, hg⟩, fun _ => rfl, fun h => absurd rfl h⟩
  | cons name names ih =>
    rw [List.forall_mem_cons] at hsize
    cases hname : isContainerName name with
    | false =>
      have hrun : (ensure env name).run w = _ := run_ensure_of_badName hname w
      obtain ⟨⟨hnames, hanswers⟩, hground, hnone, hsome⟩ := ih hg hsize.2
      rw [List.filter_cons_of_neg (by simp [hname])]
      simp only [Homes.ensureAll, hrun, List.map_cons, List.forall_mem_cons, hnames]
      exact ⟨⟨trivial, .badName hname, hanswers⟩, hground, hnone, hsome⟩
    | true =>
      obtain ⟨r, w₁, hrun, hanswer, hdisk⟩ := hg.run_ensure hname hsize.1
      have hg₁ : Ground env p w₁.disk w₁.disk := hdisk ▸ hg.settle hname hsize.1
      have hplace : w₁.disk.place p = d₀.place p := by
        rw [hdisk]
        exact (grown_settle _ d₀ name).dirsIn.place p
      obtain ⟨⟨hnames, hanswers⟩, hground, hnone, hsome⟩ := ih hg₁ hsize.2
      rw [List.filter_cons_of_pos hname]
      simp only [Homes.ensureAll, hrun, List.map_cons, List.forall_mem_cons, hnames]
      refine ⟨⟨trivial, hanswer, hanswers⟩, hground, fun h => absurd h (List.cons_ne_nil _ _),
        fun _ => ?_⟩
      rw [List.foldl_cons, ← hdisk]
      by_cases hrest : names.filter isContainerName = []
      · rw [hnone hrest, hrest, List.foldl_nil]
      · rw [hsome hrest, hplace]

/-- Names that are all different are in strict order once they are sorted. -/
theorem pairwise_lt_mergeSort {names : List String} (h : names.Nodup) :
    (names.mergeSort fun a b => decide (a ≤ b)).Pairwise (· < ·) := by
  have hsorted : (names.mergeSort fun a b => decide (a ≤ b)).Pairwise (· ≤ ·) := by
    have htrans (a b c : String) (hab : decide (a ≤ b) = true) (hbc : decide (b ≤ c) = true) :
        decide (a ≤ c) = true :=
      decide_eq_true (String.le_trans (of_decide_eq_true hab) (of_decide_eq_true hbc))
    have htotal (a b : String) : (decide (a ≤ b) || decide (b ≤ a)) = true := by
      simpa using String.le_total a b
    exact (List.pairwise_mergeSort htrans htotal names).imp of_decide_eq_true
  have hdistinct := (List.mergeSort_perm names fun a b => decide (a ≤ b)).symm.nodup h
  refine (hsorted.and hdistinct).imp fun hboth => ?_
  exact String.not_le.mp fun hge => hboth.2 (String.le_antisymm hboth.1 hge)

/-- Where the homes are, they are listed in order and once each. -/
theorem Ground.run_list (hg : Ground env p w.disk d₀) (hthere : w.disk.holds p = .ok true) :
    ∃ found, (list env).run w = (.ok found, w) ∧ found.Pairwise (· < ·) ∧
      ∀ x, x ∈ found ↔ ∃ m, w.disk.get? (w.disk.place p ++ [x]) = some (.dir m) := by
  obtain rfl := hg.eq_of_holds hthere
  obtain ⟨m, hl, hm⟩ := hg.exists_dir_made
  obtain ⟨names, hnames, hnodup, hmem⟩ := hg.tidy.list hl hm (hg.access m hm .read)
  -- what is listed has a proper name, so its path leads to it
  have hkeep : ∀ x ∈ names, w.disk.holdsDir (p.child x) =
      .ok ((w.disk.get? (w.disk.place p ++ [x])).any Node.isDir) := by
    intro x hx
    cases hget : w.disk.get? (w.disk.place p ++ [x]) with
    | none => exact absurd hget ((hmem x).mp hx)
    | some n =>
      have hx' : x ∈ w.disk.place p ++ [x] := by simp
      obtain ⟨hsize, hnul⟩ := hg.tidy.names _ _ hget x hx'
      have hup : x ≠ ".." := by
        rintro rfl
        exact hg.wellFormed.names _ _ hget hx'
      rw [Disk.holdsDir, Disk.stat_of_locate (hg.locate_child hup hsize hnul) hget]
      rfl
  refine ⟨_, Homes.run_list hg.dir hthere hnames hkeep, ?_, fun x => ?_⟩
  · exact pairwise_lt_mergeSort (hnodup.filter _)
  · rw [List.mem_mergeSort, List.mem_filter, hmem]
    cases hget : w.disk.get? (w.disk.place p ++ [x]) with
    | none => simp
    | some n => cases n <;> simp [Node.isDir]

/-- Whether or not their directory is there, the homes are listed. -/
theorem Ground.exists_list (hg : Ground env p w.disk d₀) :
    ∃ found, (list env).run w = (.ok found, w) ∧ found.Pairwise (· < ·) ∧
      ∀ x, x ∈ found ↔ w.disk.holds p = .ok true ∧
        ∃ m, w.disk.get? (w.disk.place p ++ [x]) = some (.dir m) := by
  obtain ⟨there, hthere⟩ := hg.exists_holds
  cases there with
  | true =>
    obtain ⟨found, hlist, hsorted, hfound⟩ := hg.run_list hthere
    exact ⟨found, hlist, hsorted, fun x => (hfound x).trans (and_iff_right hthere).symm⟩
  | false =>
    refine ⟨[], ?_, .nil, fun x => by simp [hthere]⟩
    rw [list, run_bind_ok (by rw [run_require, hg.dir]), run_bind_ok (by rw [run_ask, hthere]; rfl)]
    rfl

/-- What a series of calls for homes leaves behind: of the tree before it, of the tree in which the
directory of the homes had just been made, of the tree after it, and of the homes that are listed
then. -/
structure Bootstrapped (p : Path) (names : List String) (d d₀ t : Disk) (found : List String) :
    Prop where
  sorted : found.Pairwise (· < ·)
  /-- The homes are there once they are asked for, or if their directory was there before: those
  that the directory held from the start, and those of the valid names but where something stood. -/
  mem_found : ∀ x, x ∈ found ↔
    (d.holds p = .ok true ∨ ∃ name ∈ names, isContainerName name = true) ∧
      ((∃ m, d₀.get? (d.place p ++ [x]) = some (.dir m)) ∨
        x ∈ names ∧ isContainerName x = true ∧ d₀.get? (d.place p ++ [x]) = none)
  /-- On a way that never goes up, the start is the tree before. -/
  mem_found_of_not_up : ".." ∉ p.parts → ∀ x, x ∈ found ↔
    (∃ m, d.get? (d.place p ++ [x]) = some (.dir m)) ∨
      x ∈ names ∧ isContainerName x = true ∧ d.get? (d.place p ++ [x]) = none
  kept : ∀ l n, d.get? l = some n → t.get? l = some n
  /-- A new home is empty and closed to others. -/
  home : ∀ name ∈ names, isContainerName name = true → d₀.get? (d.place p ++ [name]) = none →
    t.get? (d.place p ++ [name]) = some (.dir 0o700) ∧
      ∀ x, t.get? (d.place p ++ [name] ++ [x]) = none
  new : ∀ l, t.get? l ≠ d.get? l →
    (∃ name ∈ names, isContainerName name = true ∧ l = d.place p ++ [name] ∧ d₀.get? l = none) ∨
      ∃ parts, parts <+: p.parts ∧ l = d.place ⟨p.root, parts⟩ ∧
        t.get? l = some (.dir Disk.dirMode)

theorem mem_filter_isContainerName {names : List String} :
    names.filter isContainerName ≠ [] ↔ ∃ name ∈ names, isContainerName name = true := by
  rw [ne_eq, List.filter_eq_nil_iff]
  simp

/-- Without a valid name there is nothing new. -/
theorem Ground.bootstrapped_of_none {names : List String} (hg : Ground env p d d₀)
    (hnone : ¬ ∃ name ∈ names, isContainerName name = true) {found : List String}
    (hsorted : found.Pairwise (· < ·))
    (hfound : ∀ x, x ∈ found ↔
      d.holds p = .ok true ∧ ∃ m, d.get? (d.place p ++ [x]) = some (.dir m)) :
    Bootstrapped p names d d₀ d found := by
  have hno (name : String) (hmem : name ∈ names) : isContainerName name ≠ true :=
    fun hname => hnone ⟨name, hmem, hname⟩
  refine {
    sorted := hsorted
    mem_found := fun x => ?_
    mem_found_of_not_up := fun hup x => ?_
    kept := fun _ _ h => h
    home := fun name hmem hname _ => absurd hname (hno name hmem)
    new := fun l hl => absurd rfl hl }
  · rw [hfound]
    constructor
    · rintro ⟨hthere, hdir⟩
      rw [hg.eq_of_holds hthere]
      exact ⟨.inl hthere, .inl hdir⟩
    · rintro ⟨hthere | hsome, hdir | ⟨hmem, hname, -⟩⟩
      · rw [hg.eq_of_holds hthere] at hdir
        exact ⟨hthere, hdir⟩
      · exact absurd hname (hno x hmem)
      · exact absurd hsome hnone
      · exact absurd hsome hnone
  · rw [hfound]
    constructor
    · exact fun h => .inl h.2
    · rintro (⟨m, hdir⟩ | ⟨hmem, hname, -⟩)
      · obtain ⟨there, hthere⟩ := hg.exists_holds
        cases there with
        | true => exact ⟨hthere, m, hdir⟩
        | false =>
          rw [hg.get?_child_of_not_holds hup hthere] at hdir
          cases hdir
      · exact absurd hname (hno x hmem)

/-- With a valid name the directory is made, and the homes of all valid names are settled in it. -/
theorem Ground.bootstrapped_of_some {names : List String} (hg : Ground env p d d₀)
    (hsome : ∃ name ∈ names, isContainerName name = true) {t : Disk}
    (ht : ∀ l, t.get? l = if d₀.get? l = none ∧ ∃ name ∈ names.filter isContainerName,
      l = d.place p ++ [name] then some (.dir mode) else d₀.get? l)
    {found : List String} (hsorted : found.Pairwise (· < ·))
    (hfound : ∀ x, x ∈ found ↔ ∃ m, t.get? (d.place p ++ [x]) = some (.dir m)) :
    Bootstrapped p names d d₀ t found := by
  have hmem (x : String) : x ∈ found ↔ (∃ m, d₀.get? (d.place p ++ [x]) = some (.dir m)) ∨
      x ∈ names ∧ isContainerName x = true ∧ d₀.get? (d.place p ++ [x]) = none := by
    rw [hfound, ht]
    cases hget : d₀.get? (d.place p ++ [x]) with
    | none => simp [List.mem_filter]
    | some n => simp
  refine {
    sorted := hsorted
    mem_found := fun x => (hmem x).trans (and_iff_right (.inr hsome)).symm
    mem_found_of_not_up := fun hup x => by rw [hmem, hg.get?_child hup]
    kept := fun l n hl => ?_
    home := fun name hname hvalid hfree => ⟨?_, fun x => ?_⟩
    new := fun l hl => ?_ }
  · rw [ht, if_neg (by simp [hg.grown.kept l n hl]), hg.grown.kept l n hl]
  · rw [ht, if_pos ⟨hfree, name, List.mem_filter.mpr ⟨hname, hvalid⟩, rfl⟩]
    rfl
  · -- nothing stood below the home before, and homes are made beside it only
    have hbelow := hg.wellFormed_made.get?_append hfree [x]
    rw [ht, if_neg fun hboth => ?_, hbelow]
    obtain ⟨-, name', -, heq⟩ := hboth
    have hlength := congrArg List.length heq
    simp at hlength
  · rw [ht] at hl ⊢
    split
    · next hboth =>
      obtain ⟨hfree, name, hname, heq⟩ := hboth
      obtain ⟨hname, hvalid⟩ := List.mem_filter.mp hname
      exact .inl ⟨name, hname, hvalid, heq, hfree⟩
    · next hnot =>
      rw [if_neg hnot] at hl
      obtain ⟨heq, hdir⟩ | ⟨parts, hpre, -, heq, hdir⟩ := hg.madeFor.new l hl
      · exact .inr ⟨p.parts, List.prefix_refl _, heq, hdir⟩
      · exact .inr ⟨parts, hpre, heq, hdir⟩

/-- Where homes can be kept, a series of calls for homes answers each valid name with the path of
its home and each other one with a failure, and leaves the homes as described: listed in order, the
old ones kept, the new ones empty and closed to others, and nothing else new but the directories on
the way. Names that are none do nothing; and the tree does not depend on the order of the calls, on
how often a name comes, or on the invalid names among them. -/
theorem homes_are_bootstrapped (hg : Ground env p w.disk d₀) {names : List String}
    (hsize : ∀ name ∈ names, name.utf8ByteSize ≤ 255) :
    ∃ answers w' found, ensureAll env names w = (answers, w') ∧
      answers.map Prod.fst = names ∧ (∀ a ∈ answers, Answer p a.1 a.2) ∧
      (list env).run w' = (.ok found, w') ∧ Bootstrapped p names w.disk d₀ w'.disk found ∧
      ((∀ name ∈ names, isContainerName name = false) → w' = w) ∧
      ∀ names' : List String, (∀ name ∈ names', name.utf8ByteSize ≤ 255) →
        (∀ name, isContainerName name = true → (name ∈ names' ↔ name ∈ names)) →
          Disk.Same w'.disk (ensureAll env names' w).2.disk := by
  obtain ⟨⟨hnames, hanswers⟩, ⟨d₁, hground⟩, hnone, hsome⟩ := hg.ensureAll hsize
  obtain ⟨answers, w', hrun⟩ : ∃ answers w', ensureAll env names w = (answers, w') := ⟨_, _, rfl⟩
  rw [hrun] at hnames hanswers hground hnone hsome
  by_cases hvalid : names.filter isContainerName = []
  · obtain rfl : w' = w := hnone hvalid
    have hno : ¬ ∃ name ∈ names, isContainerName name = true :=
      fun h => mem_filter_isContainerName.mpr h hvalid
    obtain ⟨found, hlist, hsorted, hfound⟩ := hg.exists_list
    refine ⟨answers, w', found, hrun, hnames, hanswers, hlist,
      hg.bootstrapped_of_none hno hsorted hfound, fun _ => rfl, fun names' hsize' hsame => ?_⟩
    have hvalid' : names'.filter isContainerName = [] := by
      rw [List.filter_eq_nil_iff] at hvalid ⊢
      exact fun name hmem hname => hvalid name ((hsame name hname).mp hmem) hname
    rw [(hg.ensureAll hsize').2.2.1 hvalid']
    exact .refl _
  · have hyes := mem_filter_isContainerName.mp hvalid
    have hdisk := hsome hvalid
    have hgrown : Disk.Grown d₀ w'.disk := hdisk ▸ grown_foldl_settle _ _ _
    have hplace : w'.disk.place p = w.disk.place p := (hg.grown.trans hgrown).dirsIn.place p
    have hget (l : Loc) := (congrArg (·.get? l) hdisk).trans (get?_foldl_settle _ _ _ l)
    have hthere : w'.disk.holds p = .ok true := by
      obtain ⟨m, hl, hm⟩ := hg.exists_dir_made
      rw [Disk.holds, Disk.stat_of_locate (hgrown.dirsIn.locate hl) (hgrown.kept _ _ hm)]
    obtain ⟨found, hlist, hsorted, hfound⟩ := hground.run_list hthere
    rw [hplace] at hfound
    simp only [hg.place] at hget
    refine ⟨answers, w', found, hrun, hnames, hanswers, hlist,
      hg.bootstrapped_of_some hyes hget hsorted hfound, fun hall => ?_, fun names' hsize' hsame => ?_⟩
    · obtain ⟨name, hname, hval⟩ := hyes
      rw [hall name hname] at hval
      cases hval
    · have hyes' : names'.filter isContainerName ≠ [] := by
        obtain ⟨name, hname, hval⟩ := hyes
        exact mem_filter_isContainerName.mpr ⟨name, (hsame name hval).mpr hname, hval⟩
      have hmem (name : String) :
          name ∈ names'.filter isContainerName ↔ name ∈ names.filter isContainerName := by
        rw [List.mem_filter, List.mem_filter]
        exact and_congr_left fun hval => hsame name hval
      rw [(hg.ensureAll hsize').2.2.2 hyes', hdisk]
      refine ⟨(grown_foldl_settle _ _ _).cwd.trans (grown_foldl_settle _ _ _).cwd.symm,
        fun l => ?_⟩
      rw [get?_foldl_settle, get?_foldl_settle]
      simp only [hmem]

/-- A tree with a home that somebody has put to use, and a file among the homes. -/
def attic : Disk where
  nodes := [
    ([], .dir 0o755),
    (["home"], .dir 0o755),
    (["home", "distrobox-secure"], .dir 0o755),
    (["home", "distrobox-secure", "homes"], .dir 0o755),
    (["home", "distrobox-secure", "homes", "old"], .dir 0o755),
    (["home", "distrobox-secure", "homes", "old", "note"], .file 0o644 "kept".toUTF8),
    (["home", "distrobox-secure", "homes", "clash"], .file 0o644 ByteArray.empty)]
  cwd := ["home"]

def atticUser : Environment := { home := "/home/me", dataHome := some "." }

def atticDir : Path := ⟨.here, ["distrobox-secure", "homes"]⟩

theorem homes_are_bootstrapped_attic :
    Ground atticUser atticDir attic attic ∧
      ∃ answers w' found,
        ensureAll atticUser ["dev", "../x", "clash", "old", "art", "dev"] { disk := attic } =
          (answers, w') ∧
        (list atticUser).run w' = (.ok found, w') ∧ found.Pairwise (· < ·) ∧
        "dev" ∈ found ∧ "art" ∈ found ∧ "old" ∈ found ∧ "clash" ∉ found ∧ "../x" ∉ found ∧
        w'.disk.get? ["home", "distrobox-secure", "homes", "art"] = some (.dir 0o700) ∧
        w'.disk.get? ["home", "distrobox-secure", "homes", "old", "note"] =
          some (.file 0o644 "kept".toUTF8) ∧
        Disk.Same w'.disk
          (ensureAll atticUser ["art", "clash", "dev", "old"] { disk := attic }).2.disk := by
  have hground : Ground atticUser atticDir attic attic := by
    refine ⟨⟨rfl, Disk.wellFormed_of_isTree (by decide), Disk.tidy_of_isTidy (by decide), rfl⟩,
      fun m hm a => ?_, by decide⟩
    have hdir : attic.get? (attic.place atticDir) = some (.dir 0o755) := rfl
    obtain rfl : 0o755 = m := Node.dir.inj (Option.some.inj (hdir.symm.trans hm))
    cases a <;> rfl
  have hsize : ∀ name ∈ ["dev", "../x", "clash", "old", "art", "dev"], name.utf8ByteSize ≤ 255 := by
    decide
  have hsize' : ∀ name ∈ ["art", "clash", "dev", "old"], name.utf8ByteSize ≤ 255 := by decide
  obtain ⟨answers, w', found, hrun, -, -, hlist, hleft, -, hsame⟩ :=
    homes_are_bootstrapped (w := { disk := attic }) hground hsize
  have hmem (x : String) := hleft.mem_found_of_not_up (by decide) x
  refine ⟨hground, answers, w', found, hrun, hlist, hleft.sorted, ?_, ?_, ?_, ?_, ?_, ?_, ?_, ?_⟩
  · exact (hmem _).mpr (.inr ⟨by decide, by decide, rfl⟩)
  · exact (hmem _).mpr (.inr ⟨by decide, by decide, rfl⟩)
  · exact (hmem _).mpr (.inl ⟨0o755, rfl⟩)
  · intro hclash
    obtain ⟨m, hm⟩ | ⟨-, -, hm⟩ := (hmem _).mp hclash
    · cases hm
    · cases hm
  · intro hbad
    obtain ⟨m, hm⟩ | ⟨-, hname, -⟩ := (hmem _).mp hbad
    · cases hm
    · exact absurd hname (by decide)
  · exact (hleft.home "art" (by decide) (by decide) rfl).1
  · exact hleft.kept _ _ rfl
  · refine hsame _ hsize' fun name hname => ?_
    have hne : name ≠ "../x" := by
      rintro rfl
      exact absurd hname (by decide)
    simp only [List.mem_cons, List.not_mem_nil, or_false, hne, false_or]
    grind

/-- What is found after a series of calls, if nothing but the names and what was there decides. -/
def FoundExactly (env : Environment) (p : Path) (names : List String) (w : World) : Prop :=
  ∃ found, (list env).run (ensureAll env names w).2 = (.ok found, (ensureAll env names w).2) ∧
    ∀ x, x ∈ found ↔ (∃ m, w.disk.get? (w.disk.place p ++ [x]) = some (.dir m)) ∨
      x ∈ names ∧ isContainerName x = true ∧ w.disk.get? (w.disk.place p ++ [x]) = none

/-- A directory of homes that nobody may add to. -/
def closedAttic : Disk := attic.put ["home", "distrobox-secure", "homes"] (.dir 0o555)

/-- A user whose homes are reached through a directory that is among them. -/
def detourUser : Environment :=
  { home := "/home/me", dataHome := some "distrobox-secure/homes/x/../../.." }

def detourDir : Path :=
  ⟨.here, ["distrobox-secure", "homes", "x", "..", "..", "..", "distrobox-secure", "homes"]⟩

/-- A long way to the top, up and up again from the top itself. -/
def upward (n : Nat) : Path := ⟨.slash, List.replicate (n + 1) ".."⟩

def upwardUser (n : Nat) : Environment := { home := "/home/me", dataHome := some (upward n).text }

def upwardDir (n : Nat) : Path := ((upward n).child appName).child "homes"

/-- A tree with homes right below the top. -/
def topAttic : Disk where
  nodes := [
    ([], .dir 0o755),
    (["distrobox-secure"], .dir 0o755),
    (["distrobox-secure", "homes"], .dir 0o755)]
  cwd := []

theorem utf8ByteSize_upward (n : Nat) : (upward n).text.utf8ByteSize = 3 * n + 3 := by
  induction n with
  | zero => decide
  | succ n ih =>
    have hchild : upward (n + 1) = (upward n).child ".." := by
      rw [upward, upward, Path.child, List.replicate_succ']
    rw [hchild, Path.text_child (by simp [upward, List.replicate_succ]),
      String.utf8ByteSize_append, String.utf8ByteSize_append, ih]
    rfl

theorem utf8ByteSize_upwardDir (n : Nat) : (upwardDir n).text.utf8ByteSize = 3 * n + 26 := by
  rw [upwardDir, Path.text_child (by simp [Path.child]),
    Path.text_child (by simp [upward, List.replicate_succ])]
  simp only [String.utf8ByteSize_append, utf8ByteSize_upward]
  rfl

theorem dir_upwardUser (n : Nat) : Homes.dir (upwardUser n) = .ok (upwardDir n) := by
  have hproper : (upward n).IsProper := by
    intro part hpart
    obtain rfl := (List.mem_replicate.mp hpart).2
    decide
  have htext : (upward n).text ≠ "" := by
    intro h
    have hsize := utf8ByteSize_upward n
    rw [h] at hsize
    cases hsize
  have huser : (upwardUser n).expand (Path.parse "~") = .ok ⟨.slash, ["home", "me"]⟩ := by
    have hclosed : atticUser.expand (Path.parse "~") = .ok ⟨.slash, ["home", "me"]⟩ := rfl
    exact hclosed
  have hdata : nonEmpty? (upwardUser n).dataHome = some (upward n).text := by
    simp [nonEmpty?, upwardUser, htext]
  rw [Homes.dir, Environment.dataDir, Environment.baseDir, huser, hdata]
  change Except.ok _ = _
  rw [Path.parse_text hproper]
  rfl

theorem parts_upwardDir (n : Nat) :
    (upwardDir n).parts = List.replicate (n + 1) ".." ++ [appName, "homes"] := by
  simp [upwardDir, upward, Path.child]

theorem hasNul_upwardDir (n : Nat) : (upwardDir n).hasNul = false := by
  rw [Path.hasNul, parts_upwardDir, List.any_append, List.any_eq_false.mpr]
  · rfl
  · intro part hpart
    obtain rfl := (List.mem_replicate.mp hpart).2
    decide

/-- From the top there is no way up. -/
theorem locate_upwardDir {n : Nat} (hn : 3 * n + 26 ≤ Disk.maxPath) :
    topAttic.locate (upwardDir n) = .ok ["distrobox-secure", "homes"] := by
  have hwalk (k : Nat) : topAttic.walk [] (List.replicate k ".." ++ [appName, "homes"]) =
      .ok ["distrobox-secure", "homes"] := by
    induction k with
    | zero => rfl
    | succ k ih =>
      rw [List.replicate_succ, List.cons_append, Disk.walk]
      exact ih
  refine Disk.locate_eq_ok_iff.mpr ⟨hasNul_upwardDir n, by rwa [utf8ByteSize_upwardDir], ?_⟩
  rw [parts_upwardDir]
  exact hwalk (n + 1)

theorem start_upward {n : Nat} (hn : 3 * n + 26 ≤ Disk.maxPath) :
    Start (upwardUser n) (upwardDir n) topAttic topAttic :=
  ⟨dir_upwardUser n, Disk.wellFormed_of_isTree (by decide), Disk.tidy_of_isTidy (by decide),
    DiskM.makeDirs_of_dir (Disk.stat_of_locate (locate_upwardDir hn) (n := .dir 0o755) rfl) 0o777⟩

/-- Where the path of a home is too long, there is no home. -/
theorem ensureAll_upward {n : Nat} (hlong : Disk.maxPath < 3 * n + 26 + 4) (w : World) :
    ensureAll (upwardUser n) ["dev"] w = ([("dev", .error (.disk .nameTooLong))], w) := by
  have hhome := (home_eq_ok_iff (dir_upwardUser n)).mpr
    ⟨show isContainerName "dev" = true by decide, rfl⟩
  have hsize : ((upwardDir n).child "dev").text.utf8ByteSize = 3 * n + 26 + 4 := by
    rw [Path.text_child (by simp [upwardDir, Path.child])]
    simp only [String.utf8ByteSize_append, utf8ByteSize_upwardDir]
    rfl
  have hnul : ((upwardDir n).child "dev").hasNul = false := by
    have hdir := hasNul_upwardDir n
    rw [Path.hasNul] at hdir ⊢
    rw [Path.child, List.any_append, hdir]
    rfl
  have hholds : w.disk.holds ((upwardDir n).child "dev") = .error .nameTooLong := by
    have hlocate : w.disk.locate ((upwardDir n).child "dev") = .error .nameTooLong := by
      rw [Disk.locate, if_neg (by simp [hnul]), if_pos (by omega)]
    rw [Disk.holds, Disk.stat_of_locate_error hlocate]
  have hrun := Homes.run_ensure hhome w
  rw [hholds] at hrun
  simp only [ensureAll, hrun]

theorem start_closedAttic : Start atticUser atticDir closedAttic closedAttic :=
  ⟨rfl, Disk.wellFormed_of_isTree (by decide), Disk.tidy_of_isTidy (by decide), rfl⟩

theorem not_foundExactly_closedAttic :
    ¬ FoundExactly atticUser atticDir ["dev"] { disk := closedAttic } := by
  rintro ⟨found, hlist, hfound⟩
  have hdev : "dev" ∈ found := (hfound "dev").mpr (.inr ⟨by decide, by decide, rfl⟩)
  have hrun : ensureAll atticUser ["dev"] { disk := closedAttic } =
    ([("dev", .error (.disk .denied))], { disk := closedAttic }) := rfl
  have hdir : Homes.dir atticUser = .ok atticDir := rfl
  have hnames : closedAttic.list atticDir = .ok ["old", "clash"] := rfl
  have hkeep : ∀ x ∈ ["old", "clash"],
      closedAttic.holdsDir (atticDir.child x) = .ok (x != "clash") :=
    List.forall_mem_cons.mpr ⟨rfl, List.forall_mem_singleton.mpr rfl⟩
  have hfinal := run_list (w := { disk := closedAttic }) hdir rfl hnames hkeep
  rw [hrun, hfinal] at hlist
  obtain rfl := Except.ok.inj (Prod.mk.inj hlist).1
  simp at hdev

theorem not_foundExactly_upward {n : Nat} (hn : 3 * n + 26 ≤ Disk.maxPath)
    (hlong : Disk.maxPath < 3 * n + 26 + 4) :
    ¬ FoundExactly (upwardUser n) (upwardDir n) ["dev"] { disk := topAttic } := by
  rintro ⟨found, hlist, hfound⟩
  have hlocate := locate_upwardDir hn
  have hthere : "dev" ∈ found := by
    refine (hfound "dev").mpr (.inr ⟨List.mem_singleton_self _, by decide, ?_⟩)
    rw [← Disk.place_of_locate hlocate]
    rfl
  have hholds : topAttic.holds (upwardDir n) = .ok true := by
    rw [Disk.holds, Disk.stat_of_locate hlocate (n := .dir 0o755) rfl]
  have hnames : topAttic.list (upwardDir n) = .ok [] := by
    rw [Disk.list, hlocate]
    rfl
  have hkeep : ∀ x ∈ [], topAttic.holdsDir ((upwardDir n).child x) = .ok (x != "") :=
    fun x hx => absurd hx List.not_mem_nil
  have hrun := run_list (w := { disk := topAttic }) (dir_upwardUser n) hholds hnames hkeep
  rw [ensureAll_upward hlong, hrun] at hlist
  obtain rfl := Except.ok.inj (Prod.mk.inj hlist).1
  simp at hthere

/-- The tree once the way through the homes has been made. -/
def detourAttic : Disk := ((DiskM.makeDirs detourDir 0o777 true).run attic).2

theorem ground_detour : Ground detourUser detourDir attic detourAttic := by
  refine ⟨⟨rfl, Disk.wellFormed_of_isTree (by decide), Disk.tidy_of_isTidy (by decide), rfl⟩,
    fun m hm a => ?_, by decide⟩
  have hdir : detourAttic.get? (detourAttic.place detourDir) = some (.dir 0o755) := rfl
  obtain rfl : 0o755 = m := Node.dir.inj (Option.some.inj (hdir.symm.trans hm))
  cases a <;> rfl

theorem not_foundExactly_detour :
    ¬ FoundExactly detourUser detourDir ["dev"] { disk := attic } := by
  rintro ⟨found, hlist, hfound⟩
  have hsize : ∀ name ∈ ["dev"], name.utf8ByteSize ≤ Disk.maxName := by decide
  obtain ⟨-, ⟨d₁, hafter⟩, -⟩ := ground_detour.ensureAll (w := { disk := attic }) hsize
  obtain ⟨found₂, hlist₂, -, hfound₂⟩ := hafter.exists_list
  rw [hlist₂] at hlist
  obtain rfl := Except.ok.inj (Prod.mk.inj hlist).1
  have hx : "x" ∈ found₂ := (hfound₂ "x").mpr ⟨rfl, Disk.dirMode, rfl⟩
  obtain ⟨m, hm⟩ | ⟨hname, -⟩ := (hfound "x").mp hx
  · cases hm
  · exact absurd hname (by decide)

/-- The calls do not do all that they say: a directory can be closed to the user, a name need
not fit behind a long path, and what is made on a way through the homes is found among them. -/
theorem not_foundExactly :
    (Start atticUser atticDir closedAttic closedAttic ∧
        ¬ FoundExactly atticUser atticDir ["dev"] { disk := closedAttic }) ∧
      (Start (upwardUser 1356) (upwardDir 1356) topAttic topAttic ∧
        ¬ FoundExactly (upwardUser 1356) (upwardDir 1356) ["dev"] { disk := topAttic }) ∧
      Start detourUser detourDir attic detourAttic ∧
        ¬ FoundExactly detourUser detourDir ["dev"] { disk := attic } :=
  ⟨⟨start_closedAttic, not_foundExactly_closedAttic⟩,
    ⟨start_upward (by decide), not_foundExactly_upward (by decide) (by decide)⟩,
    ground_detour.toStart, not_foundExactly_detour⟩

end BoxWarden.Homes
