import BoxWarden.Proofs.CommandLine.PathCheck
import BoxWarden.Proofs.Compile.HostPath

/-!
The path that is checked and the path that is bound. The check looks at the whole path, with its `~`
replaced; the engine is given the path as it was written, and reads it up to the first colon. So the
two are the same path exactly if it starts with a slash and, where it is bound to itself, holds no
colon.
-/

namespace BoxWarden

open Session

namespace Text

/-- What stands behind a text that has a cut is not looked at. -/
theorem cut?_append_right {sep : Char} {s a b : List Char} (h : cut? sep s = some (a, b))
    (t : List Char) : cut? sep (s ++ t) = some (a, b ++ t) := by
  obtain ⟨rfl, ha⟩ := eq_of_cut? h
  rw [List.append_assoc, List.cons_append]
  exact cut?_append ha _

theorem exists_cut?_of_mem {sep : Char} {s : List Char} (h : sep ∈ s) :
    ∃ a b, cut? sep s = some (a, b) := by
  obtain ⟨a, b, rfl, ha⟩ := List.eq_append_cons_of_mem h
  exact ⟨a, b, cut?_append ha b⟩

end Text

/-- How the engine reads what it is told to bind: a path of the host up to the first colon, and a
place in the container up to the second. -/
def bindFields? (arg : String) : Option (String × String) := do
  let (source, rest) ← Text.cut? ':' arg.toList
  let (target, _) ← Text.cut? ':' rest
  some (String.ofList source, String.ofList target)

/-- A path without a colon is read as it is written; of any other, what stands before the first
one. -/
theorem bindFields?_volume (path target : String) :
    ∃ source place, bindFields? (path ++ ":" ++ target ++ ":rw") = some (source, place) ∧
      (':' ∉ path.toList → source = path ∧ (':' ∉ target.toList → place = target)) ∧
      (':' ∈ path.toList → ∃ rest, path = source ++ ":" ++ rest) := by
  have harg : (path ++ ":" ++ target ++ ":rw").toList =
      path.toList ++ ':' :: (target.toList ++ ':' :: "rw".toList) := by simp
  have hplace : ':' ∈ target.toList ++ ':' :: "rw".toList := by simp
  by_cases hcolon : ':' ∈ path.toList
  · obtain ⟨a, b, hcut⟩ := Text.exists_cut?_of_mem hcolon
    obtain ⟨hpath, -⟩ := Text.eq_of_cut? hcut
    have hfirst := Text.cut?_append_right hcut (':' :: (target.toList ++ ':' :: "rw".toList))
    obtain ⟨c, d, hsecond⟩ : ∃ c d, Text.cut? ':'
        (b ++ ':' :: (target.toList ++ ':' :: "rw".toList)) = some (c, d) :=
      Text.exists_cut?_of_mem (by simp)
    refine ⟨String.ofList a, String.ofList c, ?_, fun h => absurd hcolon h, fun _ =>
      ⟨String.ofList b, ?_⟩⟩
    · rw [bindFields?, harg, hfirst]
      simp only [Option.bind_eq_bind, Option.bind_some, hsecond]
    · apply String.toList_injective
      simp [hpath]
  · have hfirst := Text.cut?_append hcolon (target.toList ++ ':' :: "rw".toList)
    obtain ⟨c, d, hsecond⟩ := Text.exists_cut?_of_mem hplace
    refine ⟨path, String.ofList c, ?_, fun _ => ⟨rfl, fun htarget => ?_⟩,
      fun h => absurd h hcolon⟩
    · rw [bindFields?, harg, hfirst]
      simp only [Option.bind_eq_bind, Option.bind_some, hsecond, String.ofList_toList]
    · rw [Text.cut?_append htarget, Option.some.injEq, Prod.mk.injEq] at hsecond
      rw [← hsecond.1, String.ofList_toList]

/-- A grant that exposes a host path binds that path: a folder of the home to itself, and the source
of a mount, which holds no colon, to its target. -/
theorem Kind.effect?_of_hostPath? (h : Host) {k : Kind} {value path : String}
    (hpath : k.hostPath? value = some path) :
    ∃ target, k.effect? h value = some ⟨[⟨k, volume path target, false⟩], .keep⟩ ∧
      (k = .homeFolder → target = path) ∧ (k ≠ .homeFolder → ':' ∉ path.toList) := by
  obtain ⟨target, heffect, hself, hparts⟩ := binds_of_hostPath? h hpath
  refine ⟨target, heffect, hself, fun hfolder => ?_⟩
  by_cases hmount : k = .mount
  · exact (hparts hmount).2.1
  · rw [hostPath?_eq_none hfolder hmount] at hpath
    cases hpath

namespace CommandLine

variable {env : Environment} {w : World} {h : Host} {r : Record} {f : Flag} {path : String}

/-- The check finds no problem with a path only if the path, with its home in place, is absolute and
something is there. -/
theorem of_pathProblem_none (hcheck : ((pathProblem env path).run w).1 = .ok none) :
    ∃ p, env.expand (Path.parse path) = .ok p ∧ p.isAbsolute = true ∧
      w.disk.holds p = .ok true := by
  rw [run_pathProblem] at hcheck
  unfold pathVerdict at hcheck
  cases hexpand : env.expand (Path.parse path) with
  | error e => simp [hexpand] at hcheck
  | ok p =>
    rw [hexpand] at hcheck
    simp only at hcheck
    cases habs : p.isAbsolute with
    | false => simp [habs] at hcheck
    | true =>
      rw [habs, if_pos rfl] at hcheck
      cases hholds : w.disk.holds p with
      | error e => simp [hholds] at hcheck
      | ok there =>
        cases there with
        | false => simp [hholds] at hcheck
        | true => exact ⟨p, rfl, habs, hholds⟩

/-- Where the check finds no problem, the path that it was given is the path on the host that the
engine binds, an absolute one where something is, exactly if it starts with a slash and, as a folder
of the home, holds no colon; and such a folder is bound to itself. Of a path that starts with a home
the engine gets the `~`, which is no absolute path, and of a folder with a colon only what stands
before it. -/
theorem bound_as_checked_iff (hf : f ∈ (compile h [r]).flags)
    (hpath : r.kind.hostPath? r.value = some path)
    (hcheck : ((pathProblem env path).run w).1 = .ok none) :
    ∃ arg source target, f.tokens = ["--volume", arg] ∧ bindFields? arg = some (source, target) ∧
      (source = path ∧ (Path.parse source).isAbsolute = true ∧
          w.disk.holds (Path.parse source) = .ok true ↔
        path.toList.head? = some '/' ∧ (r.kind = .homeFolder → ':' ∉ path.toList)) ∧
      (r.kind = .homeFolder → ':' ∉ path.toList → target = source) ∧
      (path.toList.head? ≠ some '/' → (Path.parse source).isAbsolute = false) ∧
      (':' ∈ path.toList → ∃ rest, path = source ++ ":" ++ rest) := by
  obtain ⟨target, heffect, hself, hmount⟩ := Kind.effect?_of_hostPath? h hpath
  obtain ⟨source, place, hfields, hwhole, hpart⟩ := bindFields?_volume path target
  obtain ⟨p, hexpand, -, hholds⟩ := of_pathProblem_none hcheck
  rw [compile_singleton, Record.flags_of_effect? heffect] at hf
  obtain rfl := List.mem_singleton.mp hf
  refine ⟨path ++ ":" ++ target ++ ":rw", source, place, rfl, hfields, ⟨?_, ?_⟩, ?_, ?_, hpart⟩
  · rintro ⟨rfl, habs, -⟩
    refine ⟨Path.isAbsolute_parse_iff.mp habs, fun _ hcolon => ?_⟩
    obtain ⟨rest, hrest⟩ := hpart hcolon
    have hlength := congrArg String.length hrest
    simp only [String.length_append] at hlength
    have hone : ":".length = 1 := rfl
    omega
  · rintro ⟨hslash, hfree⟩
    have hcolon : ':' ∉ path.toList := by
      by_cases hk : r.kind = .homeFolder
      · exact hfree hk
      · exact hmount hk
    obtain ⟨rfl, -⟩ := hwhole hcolon
    have habs := Path.isAbsolute_parse_iff.mpr hslash
    rw [Environment.expand, Path.expandHome_of_isAbsolute habs] at hexpand
    obtain rfl := Except.ok.inj hexpand
    exact ⟨rfl, habs, hholds⟩
  · intro hk hcolon
    obtain rfl := hself hk
    obtain ⟨hsource, htarget⟩ := hwhole hcolon
    rw [htarget hcolon, hsource]
  · intro hslash
    rw [← Bool.not_eq_true, Path.isAbsolute_parse_iff]
    intro hsource
    by_cases hcolon : ':' ∈ path.toList
    · obtain ⟨rest, rfl⟩ := hpart hcolon
      simp [hsource] at hslash
    · obtain ⟨rfl, -⟩ := hwhole hcolon
      exact hslash hsource

theorem bound_as_checked_iff_desk :
    ((pathProblem deskUser "/home").run { disk := Store.desk }).1 = .ok none ∧
      ∃ target, bindFields? "/home:/h:rw" = some ("/home", target) ∧
        Store.desk.holds (Path.parse "/home") = .ok true := by
  have hcheck : ((pathProblem deskUser "/home").run { disk := Store.desk }).1 = .ok none := rfl
  have hf : (⟨.mount, ["--volume", "/home:/h:rw"], false⟩ : Flag) ∈
      (compile {} [⟨"dev", .mount, "/home:/h"⟩]).flags := by decide
  obtain ⟨arg, source, target, harg, hfields, hiff, -⟩ :=
    bound_as_checked_iff hf (by decide) hcheck
  simp only [List.cons.injEq, and_true, true_and] at harg
  obtain ⟨rfl, -, hholds⟩ := hiff.mpr ⟨by decide, nofun⟩
  exact ⟨hcheck, target, harg ▸ hfields, hholds⟩

/-- A path that starts with the own home passes the check, and what the engine gets is the `~`. -/
theorem not_bound_as_checked :
    ¬ ∀ (env : Environment) (w : World) (h : Host) (r : Record) (f : Flag) (path : String),
      f ∈ (compile h [r]).flags → r.kind.hostPath? r.value = some path →
      ((pathProblem env path).run w).1 = .ok none →
        ∃ arg source target, f.tokens = ["--volume", arg] ∧
          bindFields? arg = some (source, target) ∧ (Path.parse source).isAbsolute = true ∧
          w.disk.holds (Path.parse source) = .ok true ∧ (r.kind = .homeFolder → target = source) := by
  intro hall
  obtain ⟨arg, source, target, harg, hfields, habs, -⟩ := hall { home := "/home" }
    { disk := Store.desk } {} ⟨"dev", .homeFolder, "~"⟩ ⟨.homeFolder, ["--volume", "~:~:rw"], false⟩
    "~" (by decide) (by decide) rfl
  simp only [List.cons.injEq, and_true, true_and] at harg
  have htilde : bindFields? "~:~:rw" = some ("~", "~") := by decide
  rw [← harg, htilde, Option.some.injEq, Prod.mk.injEq] at hfields
  rw [← hfields.1] at habs
  exact absurd habs (by decide)

end CommandLine

end BoxWarden
