import BoxWarden.Proofs.Command.Plan
import BoxWarden.Proofs.Homes
import BoxWarden.Proofs.Store.Refusal
import BoxWarden.Proofs.UserHome

/-!
Where the homes of containers are. A name holds no slash and is neither `.` nor `..`, so the home of
a container is one step below the directory of the homes, whatever that directory is called, and the
step says the name. What is no name has no home at all.
-/

namespace BoxWarden

open Session

/-- A container name is a part of a path, and goes down. -/
theorem isPart_of_isContainerName {name : String} (hn : isContainerName name = true) :
    Path.IsPart name.toList ∧ name ≠ ".." := by
  obtain ⟨c, r, hlist, hc, hr⟩ := isContainerName_iff.mp hn
  -- a dot may stand in a name, but not at its start
  have hdot : c ≠ '.' := by
    rintro rfl
    exact absurd (isAlphanum_iff.mpr hc) (by decide)
  have hslash : '/' ∉ name.toList := by
    intro hmem
    rw [hlist, List.mem_cons] at hmem
    obtain rfl | hmem := hmem
    · exact absurd (isAlphanum_iff.mpr hc) (by decide)
    · exact absurd (isNameChar_iff.mpr (hr _ hmem)) (by decide)
  refine ⟨⟨?_, hslash⟩, ?_⟩
  · rw [hlist]
    simp [Path.isName, hdot]
  · rintro rfl
    obtain ⟨rfl, -⟩ := List.cons_eq_cons.mp hlist
    exact hdot rfl

/-- A path is the one of a name in a directory: it is the directory with the name behind it, in its
text, in its parts, and in the place where it leads in any tree; and the text is the path's own. -/
structure Path.IsIn (dir : Path) (part : String) (p : Path) : Prop where
  text : p.text = dir.text ++ "/" ++ part
  parsed : Path.parse p.text = p
  joined : dir.join part = p
  parent : p.parent = dir
  name : p.name = part
  place (d : Disk) : d.place p = d.place dir ++ [part]

theorem Path.isIn_child {dir : Path} (hdir : dir.IsProper) (hparts : dir.parts ≠ []) {name : String}
    (hn : isContainerName name = true) : dir.IsIn name (dir.child name) := by
  obtain ⟨hpart, hup⟩ := isPart_of_isContainerName hn
  exact {
    text := text_child hparts name
    parsed := parse_text (hdir.child hpart)
    joined := join_of_isPart dir hpart
    parent := parent_child dir name
    name := name_child dir name
    place := fun d => d.place_child_of_name dir hup }

namespace Homes

variable {env : Environment} {user : Path}

/-- Where the home of the user is known, the directory of the homes is, too; it is below some
directory, and its text says all of it. -/
theorem exists_dir (huser : env.expand (Path.parse "~") = .ok user) :
    ∃ dir, Homes.dir env = .ok dir ∧ dir.IsProper ∧ dir.parts ≠ [] := by
  -- the home of the user is looked for first, even where a variable names the directory of data
  have hproper : user.IsProper := by
    unfold Environment.expand at huser
    cases hexpand : (Path.parse "~").expandHome env.home env.users with
    | error e =>
      rw [hexpand] at huser
      cases huser
    | ok p =>
      rw [hexpand] at huser
      obtain rfl := Except.ok.inj huser
      exact (Path.isProper_parse "~").of_expandHome hexpand
  obtain ⟨base, hbase, hbaseProper⟩ : ∃ base,
      env.baseDir env.dataHome [".local", "share"] = .ok base ∧ base.IsProper := by
    unfold Environment.baseDir
    rw [huser]
    cases nonEmpty? env.dataHome with
    | none => exact ⟨_, rfl, (hproper.child (by decide)).child (by decide)⟩
    | some dir => exact ⟨_, rfl, Path.isProper_parse dir⟩
  refine ⟨(base.child appName).child "homes", ?_, ?_, by simp [Path.child]⟩
  · rw [Homes.dir, Environment.dataDir, hbase]
    rfl
  · exact (hbaseProper.child (by decide)).child (by decide)

theorem home_eq_ok_iff {dir : Path} (hdir : Homes.dir env = .ok dir) {name : String} {p : Path} :
    home env name = .ok p ↔ isContainerName name = true ∧ p = dir.child name := by
  cases hn : isContainerName name with
  | true =>
    rw [home_of_isContainerName hn, hdir]
    simp [Except.map, eq_comm]
  | false => simp [home_of_badName hn]

/-- To make the home of what is no name fails, and does nothing. -/
theorem run_ensure_of_badName {name : String} (hn : isContainerName name = false) (w : World) :
    (ensure env name).run w = (.error (.badName name), w) := by
  rw [ensure, home_of_badName hn, run_bind, run_require]

/-- The tree can make it fail to make a home, but not the name. -/
theorem badName_of_ensure {name : String} {p : Path} (hhome : home env name = .ok p) (w : World) :
    (∀ x, ((ensure env name).run w).1 ≠ .error (.badName x)) ∧
      ∀ q, ((ensure env name).run w).1 = .ok q → q = p := by
  rw [run_ensure hhome]
  cases w.disk.holds p with
  | error e => simp
  | ok there =>
    cases there with
    | true => simp [eq_comm]
    | false =>
      simp only
      generalize (DiskM.makeDirs p mode false).run w.disk = x
      obtain ⟨e | u, d⟩ := x <;> simp [eq_comm]

/-- A plan names the home of its container, in its own option and in no other. -/
theorem home_of_make {store : Store} {name image : String} {host : Option Host} {w : World}
    {plan : Plan} (hmake : ((Plan.make env store name image host).run w).1 = .ok plan) :
    ∃ p rest items, home env name = .ok p ∧
      plan.command = ["distrobox", "create", "--name", name, "--image", image, "--home", p.text,
        "--no-entry"] ++ rest ∧ readArguments rest = some items := by
  obtain ⟨w', -, hrun⟩ := Plan.run_make_of_list env store name image host w
  rw [hrun] at hmake
  cases hlist : ((store.list name).run w).1 with
  | error e =>
    rw [hlist] at hmake
    cases hmake
  | ok records =>
    rw [hlist] at hmake
    cases hhome : home env name with
    | error e =>
      rw [hhome] at hmake
      cases hmake
    | ok p =>
      rw [hhome] at hmake
      obtain rfl := Except.ok.inj hmake
      have hread := readArguments_compile (host.getD env.host) records
      rw [List.append_assoc] at hread
      refine ⟨p, _, _, rfl, ?_, hread⟩
      simp [Plan.ofRecords, createCommand, program]

/-- Where the home of the user is known, all homes are in one directory. What is no container name
has none, and to ask for it or to make it fails and does nothing. Any other name has one, right in
the directory and under the name, so no two names share one; and to make it either gives that path
or fails for the tree. Every command that is planned, for whatever name, names a home in the
directory, and has no other option for one. -/
theorem homes_are_contained (huser : env.expand (Path.parse "~") = .ok user) :
    ∃ dir, Homes.dir env = .ok dir ∧
      (∀ name, ¬ IsKey name → home env name = .error (.badName name) ∧
        ∀ w, (ensure env name).run w = (.error (.badName name), w)) ∧
      (∀ name, IsKey name → ∃ p, home env name = .ok p ∧ dir.IsIn name p ∧
        ∀ w, (∀ x, ((ensure env name).run w).1 ≠ .error (.badName x)) ∧
          ∀ q, ((ensure env name).run w).1 = .ok q → q = p) ∧
      (∀ name name' p, home env name = .ok p → home env name' = .ok p → name = name') ∧
      ∀ store name image host w plan,
        ((Plan.make env store name image host).run w).1 = .ok plan →
          ∃ p rest items, home env name = .ok p ∧ dir.IsIn name p ∧
            plan.command = ["distrobox", "create", "--name", name, "--image", image, "--home",
              p.text, "--no-entry"] ++ rest ∧ readArguments rest = some items := by
  obtain ⟨dir, hdir, hproper, hparts⟩ := exists_dir huser
  have hin {name : String} {p : Path} (hhome : home env name = .ok p) : dir.IsIn name p := by
    obtain ⟨hn, rfl⟩ := (home_eq_ok_iff hdir).mp hhome
    exact Path.isIn_child hproper hparts hn
  refine ⟨dir, hdir, ?_, ?_, ?_, ?_⟩
  · intro name hkey
    have hn : isContainerName name = false := by
      rw [← Bool.not_eq_true, isContainerName_iff]
      exact hkey
    exact ⟨home_of_badName hn, run_ensure_of_badName hn⟩
  · intro name hkey
    have hhome : home env name = .ok (dir.child name) :=
      (home_eq_ok_iff hdir).mpr ⟨isContainerName_iff.mpr hkey, rfl⟩
    exact ⟨_, hhome, hin hhome, badName_of_ensure hhome⟩
  · intro name name' p hhome hhome'
    rw [← (hin hhome).name, (hin hhome').name]
  · intro store name image host w plan hmake
    obtain ⟨p, rest, items, hhome, hcommand, hread⟩ := home_of_make hmake
    exact ⟨p, rest, items, hhome, hin hhome, hcommand, hread⟩

/-- A user whose data is in a relative directory, written in a roundabout way. -/
def roundaboutUser : Environment := { home := "/home/me", dataHome := some "up/..//./data/" }

theorem homes_are_contained_roundabout :
    roundaboutUser.expand (Path.parse "~") = .ok ⟨.slash, ["home", "me"]⟩ ∧
      home roundaboutUser "../dev" = .error (.badName "../dev") ∧
      ∃ dir p, Homes.dir roundaboutUser = .ok dir ∧ home roundaboutUser "dev" = .ok p ∧
        dir.IsIn "dev" p ∧ p.text = "up/../data/distrobox-secure/homes/dev" := by
  have huser : roundaboutUser.expand (Path.parse "~") = .ok ⟨.slash, ["home", "me"]⟩ := rfl
  obtain ⟨dir, hdir, hbad, hgood, -⟩ := homes_are_contained huser
  have hkey : IsKey "dev" := isContainerName_iff.mp (by decide)
  have hnoKey : ¬ IsKey "../dev" := by
    rw [← isContainerName_iff]
    decide
  obtain ⟨p, hhome, hin, -⟩ := hgood "dev" hkey
  refine ⟨huser, (hbad _ hnoKey).1, dir, p, hdir, hhome, hin, ?_⟩
  obtain rfl : dir = ⟨.here, ["up", "..", "data", "distrobox-secure", "homes"]⟩ :=
    (Except.ok.inj hdir).symm
  rw [hin.text]
  decide

end Homes

end BoxWarden
