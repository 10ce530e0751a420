import BoxWarden.Compile

/-!
Compiling as what it comes to over a whole list. The flags of the records follow each other, the
records without an effect are set aside, and the changes of isolation are carried out in order.
-/

namespace BoxWarden

namespace Record

variable (h : Host) (r : Record)

/-- The flags that a record leads to. -/
def flags : List Flag := ((r.kind.effect? h r.value).map Effect.flags).getD []

/-- The change of isolation that a record asks for. -/
def change : Change := ((r.kind.effect? h r.value).map Effect.change).getD .keep

/-- Whether a record is set aside. -/
def isIgnored : Bool := (r.kind.effect? h r.value).isNone

end Record

theorem Compiled.add_eq (h : Host) (c : Compiled) (r : Record) :
    c.add h r = ⟨c.flags ++ r.flags h, (r.change h).apply c.isolation,
      c.ignored ++ if r.isIgnored h then [r] else []⟩ := by
  unfold add Record.flags Record.change Record.isIgnored
  cases r.kind.effect? h r.value with
  | none => simp [Change.apply]
  | some e => simp

/-- The induction is on the records from the first one on, with what came before them. -/
theorem foldl_add (h : Host) (records : List Record) (c : Compiled) :
    records.foldl (Compiled.add h) c =
      ⟨c.flags ++ records.flatMap (·.flags h),
        records.foldl (fun s r => (r.change h).apply s) c.isolation,
        c.ignored ++ records.filter (·.isIgnored h)⟩ := by
  induction records generalizing c with
  | nil => simp
  | cons r records ih =>
    rw [List.foldl_cons, ih, Compiled.add_eq, List.foldl_cons, List.flatMap_cons, List.filter_cons,
      List.append_assoc, List.append_assoc]
    cases r.isIgnored h <;> rfl

theorem compile_eq (h : Host) (records : List Record) :
    compile h records = ⟨records.flatMap (·.flags h),
      records.foldl (fun s r => (r.change h).apply s) {}, records.filter (·.isIgnored h)⟩ := by
  rw [compile, foldl_add]
  rfl

end BoxWarden
