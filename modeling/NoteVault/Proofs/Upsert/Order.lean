import NoteVault.Proofs.Upsert.Difference
import NoteVault.Proofs.Value.Removal

/-! The order of the keys of a note's metadata. Keys that are set keep their places, and new ones stand
behind the others, but the last key moves to the place of one that is unset. -/

namespace NoteVault

namespace Upsert

variable {o : Upsert} {v w : Vault} {m : Frontmatter} {path markdown : Text} {d : Done} {now : Int}

/-- Some metadata with what an upsert sets. -/
def setAll (o : Upsert) (m : Frontmatter) : Frontmatter :=
  o.set.entries.foldl (fun m e => m.insert e.1 e.2) m

/-- The keys of some metadata, and behind them the new ones that an upsert sets. -/
def listed (o : Upsert) (m : Frontmatter) : List Text :=
  m.names ++ o.set.names.filter (isNoneOf m.names)

/-- Whether the keys that some metadata have before and after the edits of an upsert keep their order,
and those that are new stand behind them in the order in which they are set. -/
def KeepsOrder (o : Upsert) (m : Frontmatter) : Prop :=
  (Edit.applyAll o.edits m).names =
    m.names.filter (Edit.applyAll o.edits m).names.contains ++
      o.set.names.filter (isNoneOf m.names)

instance (o : Upsert) (m : Frontmatter) : Decidable (o.KeepsOrder m) :=
  inferInstanceAs (Decidable (_ = _))

/-- Whether an upsert succeeds and writes the metadata of its note in order. -/
def WritesInOrder (o : Upsert) (v : Vault) (now : Int) : Prop :=
  ∃ d w markdown, o.run v now = (.ok d, w) ∧ v.readRaw (lookupKey d.path) = .ok markdown ∧
    w.readRaw (lookupKey d.path) = .ok (o.result markdown) ∧ o.KeepsOrder (.ofMarkdown markdown)

theorem names_setAll (o : Upsert) (m : Frontmatter) : (o.setAll m).names = o.listed m :=
  Record.names_insertAll o.set.nodup m

theorem applyAll_edits_eq_eraseAll (o : Upsert) (m : Frontmatter) :
    Edit.applyAll o.edits m = (o.setAll m).eraseAll o.unset := by
  rw [applyAll_edits, Edit.applyAll, Edit.applyAll, List.foldl_map, List.foldl_map]
  rfl

theorem keepsOrder_iff (hcheck : o.check = .ok path) : o.KeepsOrder m ↔
    ((o.setAll m).eraseAll o.unset).names =
      (o.setAll m).names.filter (isNoneOf o.unset) := by
  have hold : m.names.filter ((o.setAll m).eraseAll o.unset).names.contains =
      m.names.filter (isNoneOf o.unset) := by
    refine List.filter_congr fun key hkey => ?_
    rw [Bool.eq_iff_iff, List.contains_iff_mem, isNoneOf_iff, Record.mem_names_eraseAll,
      names_setAll, listed, List.mem_append]
    exact and_iff_left (.inl hkey)
  have hnew : (o.set.names.filter (isNoneOf m.names)).filter (isNoneOf o.unset) =
      o.set.names.filter (isNoneOf m.names) := by
    refine List.filter_eq_self.mpr fun key hkey => isNoneOf_iff.mpr ?_
    exact not_mem_unset_of_mem_names hcheck (List.mem_of_mem_filter hkey)
  rw [KeepsOrder, applyAll_edits_eq_eraseAll, hold, names_setAll, listed, List.filter_append, hnew]

theorem Admitted.writesInOrder_iff (h : o.Admitted v path markdown)
    (hchanged : o.changed (.ofMarkdown markdown) ≠ []) (hledger : ¬v.IsLedger (recordKey path)) :
    o.WritesInOrder v now ↔ o.KeepsOrder (.ofMarkdown markdown) := by
  obtain ⟨w, hrun, hwrote⟩ := h.run_of_changed hchanged now
  constructor
  · rintro ⟨d, w', markdown', hrun', hread, -, horder⟩
    obtain ⟨hd, -⟩ := Prod.ext_iff.mp (hrun.symm.trans hrun')
    obtain rfl := Except.ok.inj hd
    obtain rfl : markdown = markdown' := Except.ok.inj (h.read.symm.trans hread)
    exact horder
  · intro horder
    obtain ⟨hne, -⟩ := Vault.readRaw_eq_ok_iff.mp h.read
    exact ⟨_, w, markdown, hrun, h.read, hwrote.readRaw (p := lookupKey path) hledger hne, horder⟩

/-- An upsert that lists the keys that it unsets in some order. -/
def unsetting (o : Upsert) (unset : List Text) : Upsert := { o with unset }

section Unsetting

variable {unset : List Text} (hperm : unset.Perm o.unset)

include hperm

theorem check_unsetting : (o.unsetting unset).check = o.check := by
  have hany : unset.any Text.isBlankText = o.unset.any Text.isBlankText := hperm.any_eq
  have hcontains : unset.contains = o.unset.contains := funext fun key => by
    rw [Bool.eq_iff_iff, List.contains_iff_mem, List.contains_iff_mem, hperm.mem_iff]
  simp only [check, unsetting, hany, hcontains]

theorem get?_applyAll_unsetting (key : Text) :
    (Edit.applyAll (o.unsetting unset).edits m).get? key = (Edit.applyAll o.edits m).get? key := by
  rw [get?_applyAll_edits, get?_applyAll_edits]
  simp only [unsetting, hperm.mem_iff]

theorem changed_unsetting_ne_nil (hcheck : o.check = .ok path) (hm : m.IsProper)
    (h : o.changed m ≠ []) : (o.unsetting unset).changed m ≠ [] := by
  obtain ⟨key, hkey⟩ := List.exists_mem_of_ne_nil _ h
  have hdiffer : m.differAt (Edit.applyAll (o.unsetting unset).edits m) key = true := by
    rw [Frontmatter.differAt, get?_applyAll_unsetting hperm]
    exact (mem_changed_iff hcheck hm).mp hkey
  have hcheck' := (check_unsetting hperm).trans hcheck
  exact List.ne_nil_of_mem ((mem_changed_iff hcheck' hm).mpr hdiffer)

end Unsetting

/-- An upsert that writes its note, in whatever order it lists the keys that it unsets, writes the
metadata in order exactly if at most one key that stays, the new ones included, stands behind the first
one that is unset. -/
theorem writesInOrder_iff_oneBehind (hrun : o.run v now = (.ok d, w)) (hchanged : d.changed ≠ [])
    (hledger : ¬v.IsLedger (recordKey d.path)) :
    ∃ markdown, v.readRaw (lookupKey d.path) = .ok markdown ∧
      ((∀ unset, unset.Perm o.unset → (o.unsetting unset).WritesInOrder v now) ↔
        Record.OneBehind o.unset (o.listed (.ofMarkdown markdown))) := by
  cases effect_of_run hrun with
  | kept hadmitted hkept => exact absurd rfl hchanged
  | @written path markdown w hadmitted hnew hwrote =>
    refine ⟨markdown, hadmitted.read, ?_⟩
    have hproper := Frontmatter.isProper_ofMarkdown markdown
    have hstep (unset : List Text) (hperm : unset.Perm o.unset) :
        (o.unsetting unset).WritesInOrder v now ↔
          ((o.setAll (.ofMarkdown markdown)).eraseAll unset).names =
            (o.setAll (.ofMarkdown markdown)).names.filter (isNoneOf o.unset) := by
      have hcheck := (check_unsetting hperm).trans hadmitted.check
      have hsame : (o.unsetting unset).Admitted v path markdown :=
        ⟨hcheck, hadmitted.read, hadmitted.expected⟩
      have hne := changed_unsetting_ne_nil hperm hadmitted.check hproper hnew
      rw [hsame.writesInOrder_iff hne hledger, keepsOrder_iff hcheck, ← isNoneOf_perm hperm]
      exact Iff.rfl
    rw [← names_setAll, ← Record.forall_perm_names_eraseAll_iff]
    exact forall₂_congr hstep

/-- Sets some keys of a note and unsets one. -/
def replacing (key : Text) (fields : List (Text × Value)) : Upsert :=
  ⟨"N.md", .ofList fields, [key], none⟩

def threeKeys : Text := "---\na: 1\nb: 2\nc: 3\n---\nbody"

def threeKeysNote : Vault := ⟨"vault", ⟨.ofList [("vault/N.md", Utf8.encode threeKeys)], .empty⟩⟩

theorem writesInOrder_iff_oneBehind_lastKey :
    ∃ w, (replacing "c" [("d", .int 4)]).run threeKeysNote 1 =
        (.ok ⟨"N.md", 1, ["d".toList, "c".toList]⟩, w) ∧
      ¬threeKeysNote.IsLedger (recordKey "N.md") ∧
      (replacing "c" [("d", .int 4)]).WritesInOrder threeKeysNote 1 := by
  have hrun : (replacing "c" [("d", .int 4)]).run threeKeysNote 1 =
      (.ok ⟨"N.md", 1, ["d".toList, "c".toList]⟩,
        ((replacing "c" [("d", .int 4)]).run threeKeysNote 1).2) :=
    Prod.ext (by decide +kernel) rfl
  have hledger : ¬threeKeysNote.IsLedger (recordKey "N.md") := by decide +kernel
  obtain ⟨markdown, hread, hiff⟩ :=
    writesInOrder_iff_oneBehind hrun (List.cons_ne_nil _ _) hledger
  have hread' : threeKeysNote.readRaw (lookupKey "N.md") = .ok threeKeys := by decide +kernel
  obtain rfl : threeKeys = markdown := Except.ok.inj (hread'.symm.trans hread)
  have hone : Record.OneBehind (replacing "c" [("d", .int 4)]).unset
      ((replacing "c" [("d", .int 4)]).listed (.ofMarkdown threeKeys)) := by decide +kernel
  exact ⟨_, hrun, hledger, hiff.mpr hone _ (.refl _)⟩

/-- The last key takes the place of the first one, in front of the one between them. -/
theorem not_writesInOrder_firstKey :
    ∃ w, (replacing "a" []).run threeKeysNote 1 = (.ok ⟨"N.md", 1, ["a".toList]⟩, w) ∧
      w.readRaw "N.md" = .ok "---\nc: 3\nb: 2\n---\nbody".toList ∧
      ¬(replacing "a" []).WritesInOrder threeKeysNote 1 := by
  have hrun : (replacing "a" []).run threeKeysNote 1 =
      (.ok ⟨"N.md", 1, ["a".toList]⟩, ((replacing "a" []).run threeKeysNote 1).2) :=
    Prod.ext (by decide +kernel) rfl
  have hread : ((replacing "a" []).run threeKeysNote 1).2.readRaw "N.md" =
      .ok "---\nc: 3\nb: 2\n---\nbody".toList := by decide +kernel
  have hadmitted : (replacing "a" []).Admitted threeKeysNote "N.md" threeKeys :=
    ⟨by decide +kernel, by decide +kernel, by simp [replacing]⟩
  have hchanged : (replacing "a" []).changed (.ofMarkdown threeKeys) ≠ [] := by decide +kernel
  have hledger : ¬threeKeysNote.IsLedger (recordKey "N.md") := by decide +kernel
  refine ⟨_, hrun, hread, ?_⟩
  rw [hadmitted.writesInOrder_iff hchanged hledger]
  decide +kernel

end Upsert

end NoteVault
