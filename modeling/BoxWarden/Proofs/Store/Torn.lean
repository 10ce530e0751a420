import BoxWarden.Proofs.Store.Ledger

/-!
A grant that is cut off while its line is being written. If the cut falls between two characters,
the other grants are still there, and the next one stands on a line of its own. If it falls inside
a character, the file is no text any more, and nothing in it can be read.
-/

namespace BoxWarden

namespace Text

/-- What stands behind a text in a text is a text. -/
theorem exists_of_append_left {t z : String} {p : ByteArray} (h : t.toUTF8 ++ p = z.toUTF8) :
    ∃ u : String, z = t ++ u ∧ p = u.toUTF8 := by
  have hbytes : t.toList.utf8Encode ++ p = z.toList.utf8Encode := by
    rw [String.utf8Encode_toList, String.utf8Encode_toList]
    exact h
  obtain ⟨r, hr⟩ := List.isPrefix_of_utf8Encode_append_eq_utf8Encode p hbytes
  have hz : z = t ++ String.ofList r := by
    apply String.toList_injective
    simp [hr]
  have happ : (t ++ String.ofList r).toUTF8 = t.toUTF8 ++ (String.ofList r).toUTF8 :=
    String.toByteArray_append
  rw [hz, happ] at h
  exact ⟨String.ofList r, hz, (ByteArray.append_right_inj _).mp h⟩

/-- What stands in front of a text in a text is a text: the second one starts with the first byte of
a character. -/
theorem exists_of_append_right {y z : String} {c : ByteArray} (h : c ++ y.toUTF8 = z.toUTF8) :
    ∃ x : String, c = x.toUTF8 := by
  have hsize : z.utf8ByteSize = c.size + y.utf8ByteSize := by
    have hsizes := congrArg ByteArray.size h
    rw [ByteArray.size_append] at hsizes
    exact hsizes.symm
  have hvalid : (String.Pos.Raw.mk c.size).IsValid z := by
    rw [String.Pos.Raw.isValid_iff_isUTF8FirstByte]
    by_cases hy : y.utf8ByteSize = 0
    · left
      ext
      simp [hsize, hy]
    · right
      have hpos : 0 < y.toByteArray.size := Nat.pos_of_ne_zero hy
      have hlt : String.Pos.Raw.mk c.size < z.rawEndPos := by
        rw [String.Pos.Raw.lt_iff]
        change c.size < z.utf8ByteSize
        omega
      have hin : c.size < (c ++ y.toByteArray).size := by
        rw [ByteArray.size_append]
        omega
      have hbyte : (c ++ y.toByteArray)[c.size] = y.toByteArray[0] := by
        rw [ByteArray.getElem_append_right (Nat.le_refl _)]
        simp
      have hfirst := y.isValidUTF8.isUTF8FirstByte_getElem_zero hpos
      rw [← hbyte] at hfirst
      refine ⟨hlt, ?_⟩
      simpa only [String.getUTF8Byte, ← String.toUTF8_eq_toByteArray, ← h] using hfirst
  have hcut : z.toByteArray.extract 0 c.size = c := by
    rw [← String.toUTF8_eq_toByteArray, ← h]
    exact ByteArray.extract_append_eq_left rfl
  have hc := (String.Pos.Raw.isValid_iff_isValidUTF8_extract_zero.mp hvalid).2
  rw [hcut] at hc
  exact ⟨String.ofByteArray c hc, rfl⟩

end Text

namespace Store

/-- The first part of a line, or all of it, is at most one line. -/
theorem length_textLines_le_one {line v : String} (hl : '\n' ∉ line.toList)
    (hv : v.toList <+: line.toList ++ ['\n']) : (textLines v).length ≤ 1 := by
  obtain hv | hv := List.prefix_concat_iff.mp hv
  · have hall : v = line ++ "\n" := by
      apply String.toList_injective
      simp [hv]
    rw [hall, textLines_line hl]
    exact Nat.le_refl 1
  · by_cases hne : v.toList = []
    · simp [textLines, hne]
    · have hnl : '\n' ∉ v.toList := fun h => hl (hv.subset h)
      simp [textLines, Text.lines_of_not_mem hne hnl]

/-- The first part of what is written for a line is nothing, or it stands on a line of its own. -/
theorem torn_cases {t line u : String}
    (hu : u.toList <+: (DiskM.gap t.toUTF8 ++ line ++ "\n").toList) :
    u = "" ∨ ∃ v : String, t ++ u = behind t v ∧ v.toList <+: line.toList ++ ['\n'] := by
  have hgap : DiskM.gap t.toUTF8 = "" ∨ DiskM.gap t.toUTF8 = "\n" := by
    rw [DiskM.gap]
    split
    · exact .inr rfl
    · exact .inl rfl
  rcases hgap with hgap | hgap
  · rw [hgap] at hu
    refine .inr ⟨u, ?_, by simpa using hu⟩
    rw [behind_eq, hgap, String.append_empty]
  · rw [hgap] at hu
    have hprefix : u.toList <+: '\n' :: (line.toList ++ ['\n']) := by simpa using hu
    obtain hnil | ⟨v, hv, hrest⟩ := List.prefix_cons_iff.mp hprefix
    · exact .inl (String.toList_eq_nil_iff.mp hnil)
    · refine .inr ⟨String.ofList v, ?_, by rwa [String.toList_ofList]⟩
      rw [behind_eq, hgap]
      apply String.toList_injective
      simp [hv]

/-- The first part of a line adds at most one grant, and takes none away. -/
theorem grantsIn_torn {t line u : String} (hl : '\n' ∉ line.toList)
    (hu : u.toList <+: (DiskM.gap t.toUTF8 ++ line ++ "\n").toList) :
    ∃ more, more.length ≤ 1 ∧ grantsIn (t ++ u) = grantsIn t ++ more := by
  obtain rfl | ⟨v, hv, hprefix⟩ := torn_cases hu
  · exact ⟨[], by simp, by simp⟩
  · refine ⟨grantsIn v, ?_, by rw [hv, grantsIn_behind]⟩
    exact Nat.le_trans (List.length_filterMap_le _ _) (length_textLines_le_one hl hprefix)

/-- There is a way to the file of a store, which can be read and written. -/
structure Stands (s : Store) (d : Disk) (m : Nat) (c : ByteArray) : Prop where
  way : Way s d
  file : d.get? (d.place s.path) = some (.file m c)
  read : Access.read.allowed (d.place s.path) m = true
  write : Access.write.allowed (d.place s.path) m = true

variable {s : Store} {w w' : World} {m : Nat} {c : ByteArray} {t : String}

/-- The world with another content in the file of a store. -/
def holdingOnly (s : Store) (w : World) (m : Nat) (c : ByteArray) : World :=
  { w with disk := w.disk.put (w.disk.place s.path) (.file m c) }

/-- The file is there still when it is given another content. -/
theorem Stands.put (h : Stands s w.disk m c) (c' : ByteArray) :
    Stands s (s.holdingOnly w m c').disk m c' := by
  have hd := wellFormed_put_file h.way.wellFormed h.way.leads h.way.noDir m c'
  have hself := Disk.get?_put_self w.disk (w.disk.place s.path) (.file m c')
  have hway := h.way.of_sameBut (Disk.sameBut_put _ _ _) hd (by simp [hself])
  exact ⟨hway, hself, h.read, h.write⟩

theorem Stands.text (h : Stands s w.disk m t.toUTF8) : w.disk.textAt s.path = .ok t :=
  Disk.textAt_of_file h.way.leads h.file h.read

theorem Stands.records (h : Stands s w.disk m t.toUTF8) :
    (s.records.run w).1 = .ok (grantsIn t) := by
  obtain ⟨w', -, hrun⟩ := run_records s w
  rw [hrun, h.text]
  rfl

/-- A file that is no text cannot be read, however much of it is one. -/
theorem Stands.records_of_no_text (h : Stands s w.disk m c) (hc : ∀ t : String, c ≠ t.toUTF8) :
    (s.records.run w).1 = .error (.disk .notText) := by
  have hholds : w.disk.holds s.path = .ok true := by
    rw [Disk.holds, Disk.stat_of_locate h.way.leads h.file]
  have hread : w.disk.read s.path = .ok c :=
    Disk.read_eq_ok_iff.mpr ⟨h.way.leads, m, h.file, h.read⟩
  have hnone : String.fromUTF8? c = none := by
    rw [Option.eq_none_iff_forall_not_mem]
    intro t ht
    exact hc t (fromUTF8?_eq_some_iff.mp ht)
  have htext : w.disk.textAt s.path = .error .notText := by
    rw [Disk.textAt, hholds]
    change w.disk.readText s.path = _
    simp only [Disk.readText, hread, hnone, bind, Except.bind]
  obtain ⟨w', -, hrun⟩ := run_records s w
  rw [hrun, htext]
  rfl

/-- A grant changes the file and nothing else. -/
theorem Stands.exists_grant (h : Stands s w.disk m c) {container kind value : String} {r : Record}
    (hr : grantOf container kind value = .ok r) :
    ∃ w', (s.grant container kind value).run w = (.ok r, w') ∧
      w'.disk = (s.holdingOnly w m (c ++ (DiskM.gap c ++ r.line ++ "\n").toUTF8)).disk := by
  have happend := DiskM.run_appendLine_of_file h.way.leads h.file r.line
  rw [if_pos ⟨.inr h.read, h.write⟩] at happend
  rw [run_grant, hr]
  simp only [h.way.makeDirs, happend]
  refine ⟨_, rfl, ?_⟩
  rw [World.disk_noted]
  rfl

/-- A grant puts its line behind the content, whether or not that is a text. -/
theorem Stands.grant (h : Stands s w.disk m c) {container kind value : String} {r : Record}
    (hr : grantOf container kind value = .ok r) :
    ∃ w', (s.grant container kind value).run w = (.ok r, w') ∧
      Stands s w'.disk m (c ++ (DiskM.gap c ++ r.line ++ "\n").toUTF8) := by
  obtain ⟨w', hrun, hdisk⟩ := h.exists_grant hr
  exact ⟨w', hrun, hdisk ▸ h.put _⟩

/-- The file of an accepted grant can be read and written before it, and nothing else stands in its
way. -/
theorem stands_of_grant (hd : w.disk.WellFormed) (ht : w.disk.readText s.path = .ok t)
    {container kind value : String} {r : Record}
    (hg : (s.grant container kind value).run w = (.ok r, w')) :
    ∃ m, Stands s w.disk m t.toUTF8 := by
  obtain ⟨hl, m, hfile, hread⟩ := Disk.readText_eq_ok_iff.mp ht
  have hway : Way s w.disk := ⟨hd, hl, by simp [hfile]⟩
  refine ⟨m, hway, hfile, hread, ?_⟩
  have hr := grantOf_of_grant s w hg
  rw [run_grant, hr] at hg
  simp only [hway.makeDirs, DiskM.run_appendLine_of_file hl hfile] at hg
  by_cases hw : Access.write.allowed (w.disk.place s.path) m = true
  · exact hw
  · rw [if_neg (by simp [hw])] at hg
    cases hg

/-- What a grant adds to the bytes of a text. -/
theorem eq_of_grant (h : Stands s w.disk m t.toUTF8) {container kind value : String} {r : Record}
    (hg : (s.grant container kind value).run w = (.ok r, w')) :
    Stands s w'.disk m (t.toUTF8 ++ (DiskM.gap t.toUTF8 ++ r.line ++ "\n").toUTF8) := by
  obtain ⟨w₁, hrun, hstands⟩ := h.grant (grantOf_of_grant s w hg)
  rw [hg] at hrun
  rw [(Prod.mk.inj hrun).2]
  exact hstands

/-- A grant that is cut off after some of its bytes. If they are a text, the file can be read: every
grant is there that was there before, and at most one more, and whatever is granted next comes
behind them. If they are not, which happens exactly when the cut falls inside a character, the file
cannot be read, not even after the next grant. -/
theorem records_of_cut {s : Store} {w w' : World} {t : String} (hd : w.disk.WellFormed)
    (ht : w.disk.readText s.path = .ok t) {container kind value : String} {r : Record}
    (hg : (s.grant container kind value).run w = (.ok r, w')) {m : Nat} {p q : ByteArray}
    (hfile : w'.disk.get? (w'.disk.place s.path) = some (.file m (t.toUTF8 ++ (p ++ q)))) :
    (s.records.run w).1 = .ok (grantsIn t) ∧
      (∀ u : String, p = u.toUTF8 → ∃ more, more.length ≤ 1 ∧
        (s.records.run (s.holdingOnly w' m (t.toUTF8 ++ p))).1 = .ok (grantsIn t ++ more) ∧
        ∀ container' kind' value' r', grantOf container' kind' value' = .ok r' →
          ∃ w₂, (s.grant container' kind' value').run (s.holdingOnly w' m (t.toUTF8 ++ p)) =
              (.ok r', w₂) ∧
            (s.records.run w₂).1 = .ok (grantsIn t ++ more ++ [r'])) ∧
      ((∀ u : String, p ≠ u.toUTF8) →
        (s.records.run (s.holdingOnly w' m (t.toUTF8 ++ p))).1 = .error (.disk .notText) ∧
        ∀ container' kind' value' r', grantOf container' kind' value' = .ok r' →
          ∃ w₂, (s.grant container' kind' value').run (s.holdingOnly w' m (t.toUTF8 ++ p)) =
              (.ok r', w₂) ∧
            (s.records.run w₂).1 = .error (.disk .notText)) := by
  obtain ⟨m₀, hbefore⟩ := stands_of_grant hd ht hg
  have hafter := eq_of_grant hbefore hg
  have hsame := hafter.file.symm.trans hfile
  simp only [Option.some.injEq, Node.file.injEq] at hsame
  obtain ⟨rfl, hbytes⟩ := hsame
  have hadded := (ByteArray.append_right_inj _).mp hbytes
  have htorn := hafter.put (t.toUTF8 ++ p)
  obtain ⟨-, -, -, hname, hvalue⟩ := grantOf_eq_ok_iff.mp (grantOf_of_grant s w hg)
  refine ⟨hbefore.records, ?_, ?_⟩
  · rintro u rfl
    have hjoin : t.toUTF8 ++ u.toUTF8 = (t ++ u).toUTF8 := String.toByteArray_append.symm
    rw [hjoin] at htorn ⊢
    obtain ⟨rest, hrest, -⟩ := Text.exists_of_append_left hadded.symm
    have hprefix : u.toList <+: (DiskM.gap t.toUTF8 ++ r.line ++ "\n").toList := by
      rw [hrest, String.toList_append]
      exact List.prefix_append _ _
    obtain ⟨more, hmore, hgrants⟩ := grantsIn_torn (newline_not_mem_line hname hvalue) hprefix
    refine ⟨more, hmore, by rw [htorn.records, hgrants], ?_⟩
    intro container' kind' value' r' hr'
    obtain ⟨w₂, hrun, hnext⟩ := htorn.grant hr'
    obtain ⟨-, -, -, hname', hvalue'⟩ := grantOf_eq_ok_iff.mp hr'
    rw [← toUTF8_added] at hnext
    refine ⟨w₂, hrun, ?_⟩
    rw [hnext.records, grantsIn_added _ hname' hvalue', hgrants]
  · intro hp
    have hno : ∀ z : String, t.toUTF8 ++ p ≠ z.toUTF8 := by
      intro z hz
      obtain ⟨u, -, hu⟩ := Text.exists_of_append_left hz
      exact hp u hu
    refine ⟨htorn.records_of_no_text hno, ?_⟩
    intro container' kind' value' r' hr'
    obtain ⟨w₂, hrun, hnext⟩ := htorn.grant hr'
    refine ⟨w₂, hrun, hnext.records_of_no_text ?_⟩
    intro z hz
    obtain ⟨x, hx⟩ := Text.exists_of_append_right hz
    exact hno x hx

theorem readText_desk : desk.readText deskStore.path = .ok "# mine\r\ndev:gpu:1" :=
  Disk.readText_eq_ok_iff.mpr ⟨rfl, 0o600, Disk.fileIs_some_iff.mp fileIs_desk, by decide⟩

/-- A grant on the desk, and what it adds to the file. -/
theorem grant_desk (kind value line : String) {r : Record} (hr : grantOf "dev" kind value = .ok r)
    (hline : r.line = line) :
    ∃ w', (deskStore.grant "dev" kind value).run { disk := desk } = (.ok r, w') ∧
      Stands deskStore w'.disk 0o600
        ("# mine\r\ndev:gpu:1".toUTF8 ++ ("\n" ++ line ++ "\n").toUTF8) := by
  have hstands : Stands deskStore desk 0o600 "# mine\r\ndev:gpu:1".toUTF8 := by
    refine ⟨⟨wellFormed_desk, rfl, ?_⟩, Disk.fileIs_some_iff.mp fileIs_desk, by decide, by decide⟩
    simp [Disk.fileIs_some_iff.mp fileIs_desk]
  obtain ⟨w', hrun, hafter⟩ := Stands.grant (w := { disk := desk }) hstands hr
  have hgap : DiskM.gap "# mine\r\ndev:gpu:1".toUTF8 = "\n" := by decide
  rw [hgap, hline] at hafter
  exact ⟨w', hrun, hafter⟩

theorem records_of_cut_desk :
    ∃ w', (deskStore.grant "dev" "network" "host").run { disk := desk } =
        (.ok ⟨"dev", .network, "host"⟩, w') ∧
      ∃ more, more.length ≤ 1 ∧
        (deskStore.records.run (deskStore.holdingOnly w' 0o600
          ("# mine\r\ndev:gpu:1".toUTF8 ++ "\ndev:network:ho".toUTF8))).1 =
            .ok ([⟨"dev", .gpu, "1"⟩] ++ more) := by
  obtain ⟨w', hrun, hafter⟩ := grant_desk "network" "host" "dev:network:host"
    (r := ⟨"dev", .network, "host"⟩) rfl rfl
  have hsplit : ("\n" ++ "dev:network:host" ++ "\n").toUTF8 =
      "\ndev:network:ho".toUTF8 ++ "st\n".toUTF8 := rfl
  rw [hsplit] at hafter
  obtain ⟨-, htext, -⟩ := records_of_cut (w := { disk := desk }) wellFormed_desk readText_desk hrun
    hafter.file
  obtain ⟨more, hmore, hrecords, -⟩ := htext _ rfl
  exact ⟨w', hrun, more, hmore, hrecords⟩

/-- A grant that is cut off inside a character takes every other one with it. -/
theorem not_records_of_cut :
    ¬ ∀ (s : Store) (w w' : World) (t container kind value : String) (r : Record) (m : Nat)
      (p q : ByteArray), w.disk.WellFormed → w.disk.readText s.path = .ok t →
      (s.grant container kind value).run w = (.ok r, w') →
      w'.disk.get? (w'.disk.place s.path) = some (.file m (t.toUTF8 ++ (p ++ q))) →
        ∃ more, more.length ≤ 1 ∧
          (s.records.run (s.holdingOnly w' m (t.toUTF8 ++ p))).1 = .ok (grantsIn t ++ more) := by
  intro h
  obtain ⟨w', hrun, hafter⟩ := grant_desk "hostname" "\u00e9" "dev:hostname:\u00e9"
    (r := ⟨"dev", .hostname, "\u00e9"⟩) rfl rfl
  have hsplit : ("\n" ++ "dev:hostname:\u00e9" ++ "\n").toUTF8 =
      "\ndev:hostname:".toUTF8 ++ ⟨#[0xC3]⟩ ++ ⟨#[0xA9, 0x0A]⟩ := rfl
  rw [hsplit] at hafter
  have hno : ∀ z : String, "# mine\r\ndev:gpu:1".toUTF8 ++
      ("\ndev:hostname:".toUTF8 ++ ⟨#[0xC3]⟩) ≠ z.toUTF8 := by
    intro z hz
    obtain ⟨u, -, hu⟩ := Text.exists_of_append_left hz
    obtain ⟨x, -, hx⟩ := Text.exists_of_append_left hu
    have hvalid : (ByteArray.mk #[0xC3]).IsValidUTF8 := hx ▸ x.isValidUTF8
    exact absurd hvalid (by decide)
  obtain ⟨more, -, hrecords⟩ := h deskStore { disk := desk } w' _ _ _ _ _ _ _ _ wellFormed_desk
    readText_desk hrun hafter.file
  have htorn := hafter.put ("# mine\r\ndev:gpu:1".toUTF8 ++ ("\ndev:hostname:".toUTF8 ++ ⟨#[0xC3]⟩))
  rw [htorn.records_of_no_text hno] at hrecords
  cases hrecords

end Store

end BoxWarden
