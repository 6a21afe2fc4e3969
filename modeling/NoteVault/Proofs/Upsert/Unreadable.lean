import NoteVault.Proofs.Upsert.Wanted

/-! What an upsert does to a note with a block that cannot be read. The block counts as empty, so that
a new one with the fields that are set takes its place. -/

namespace NoteVault

theorem Frontmatter.ofMarkdown_of_unreadable {markdown block : Text}
    (hsplit : (Fence.split markdown).1 = some block) (hblank : Text.isBlankText block = false)
    (hdecode : decode? block = none) : ofMarkdown markdown = .empty := by
  rw [ofMarkdown, hsplit, Option.map_some, Option.getD_some, ofBlock, hblank, hdecode]
  rfl

namespace Upsert

variable {o : Upsert} {v w : Vault} {path markdown block : Text} {now : Int}

theorem unsetAll_of_disjoint {keys : List Text} {m : Frontmatter} (h : ∀ key ∈ keys, key ∉ m.names) :
    Edit.applyAll (keys.map .unset) m = m := by
  induction keys with
  | nil => rfl
  | cons k ks ih =>
    have herase : m.erase k = m := Record.erase_of_not_mem (h k List.mem_cons_self)
    change Edit.applyAll (ks.map .unset) (m.erase k) = m
    rw [herase, ih fun key hkey => h key (List.mem_cons_of_mem k hkey)]

theorem applyAll_edits_empty (hcheck : o.check = .ok path) :
    Edit.applyAll o.edits .empty = o.set := by
  have hset : Edit.applyAll (o.set.entries.map fun e => .set e.1 e.2) .empty = o.set := by
    rw [Edit.applyAll, List.foldl_map]
    exact Record.ofList_entries o.set
  rw [applyAll_edits]
  change Edit.applyAll (o.unset.map .unset)
    (Edit.applyAll (o.set.entries.map fun e => .set e.1 e.2) .empty) = o.set
  rw [hset]
  refine unsetAll_of_disjoint fun key hunset hname => ?_
  obtain ⟨e, he, rfl⟩ := List.mem_map.mp hname
  exact not_mem_unset_of_check hcheck (Record.get?_eq_some_iff.mpr he) hunset

theorem changed_empty (o : Upsert) : o.changed .empty = o.set.names := by
  have hnone : ∀ key, Record.has (.empty : Frontmatter) key = false := fun _ => rfl
  have hnew : o.set.entries.filter (isNew .empty) = o.set.entries :=
    List.filter_eq_self.mpr fun _ _ => rfl
  rw [changed, foldl_unset, hnew]
  simp [hnone, Record.names]

/-- What an upsert can do to a note with an unreadable block. -/
inductive Replaced (o : Upsert) (v : Vault) (path markdown : Text) (now : Int) :
    Except Fault Done → Vault → Prop
  /-- The note has another time of last change than expected; nothing is written. -/
  | refused {expected : Int} (expects : o.expected = some expected)
      (stale : expected ≠ foundTime v path) :
      Replaced o v path markdown now (.error (.conflict path expected (foundTime v path))) v
  /-- No field is set; nothing is written. -/
  | kept (unset : o.set.isEmpty = true) :
      Replaced o v path markdown now (.ok ⟨path, foundTime v path, []⟩) v
  /-- A new block with the fields that are set stands in front of the old body. -/
  | written {mtime : Int} {w : Vault} (set : o.set.isEmpty = false)
      (file : w.readRaw (lookupKey path) =
        .ok ("---\n" ++ Frontmatter.encode o.set ++ "---\n" ++ (Fence.split markdown).2)) :
      Replaced o v path markdown now (.ok ⟨path, mtime, o.set.names⟩) w
  /-- The note is the file of the ledger, and the ledger is written there. -/
  | ledger {mtime : Int} {w : Vault} (set : o.set.isEmpty = false)
      (ledger : v.IsLedger (recordKey path))
      (file : w.readRaw (lookupKey path) = .ok (Json.pretty
        (v.recorded (recordKey path) (o.resultBytes markdown) now).toValue)) :
      Replaced o v path markdown now (.ok ⟨path, mtime, o.set.names⟩) w

theorem render_set (hset : o.set.isEmpty = false) (body : Text) :
    Frontmatter.render o.set body = "---\n" ++ Frontmatter.encode o.set ++ "---\n" ++ body :=
  if_neg (Bool.eq_false_iff.mp hset)

theorem readRaw_of_ledger {bytes : Bytes} (hwrote : v.Wrote (recordKey path) bytes now w)
    (hne : recordKey path ≠ []) (hledger : v.IsLedger (recordKey path)) :
    w.readRaw (lookupKey path) =
      .ok (Json.pretty (v.recorded (recordKey path) bytes now).toValue) := by
  refine Vault.readRaw_eq_ok_iff.mpr ⟨hne, _, ?_, Utf8.decode_encode _⟩
  exact (hwrote.file (recordKey path)).trans (if_pos hledger)

/-- An upsert of a note with an unreadable block is refused, writes nothing because it sets nothing,
or puts a block with the fields that are set into the place of the unreadable one. -/
theorem replaced_of_unreadable (hcheck : o.check = .ok path)
    (hread : v.readRaw (lookupKey path) = .ok markdown)
    (hsplit : (Fence.split markdown).1 = some block) (hblank : Text.isBlankText block = false)
    (hdecode : Frontmatter.decode? block = none) (now : Int) :
    Replaced o v path markdown now (o.run v now).1 (o.run v now).2 := by
  have hempty := Frontmatter.ofMarkdown_of_unreadable hsplit hblank hdecode
  have hchanged : o.changed (.ofMarkdown markdown) = o.set.names := by
    rw [hempty, changed_empty]
  -- the block counts as empty, so only the guard can still refuse the upsert
  by_cases hstale : ∃ expected, o.expected = some expected ∧ expected ≠ foundTime v path
  · obtain ⟨expected, hexpected, hne⟩ := hstale
    rw [run_of_stale hcheck hread hexpected hne]
    exact .refused hexpected hne
  have hadmitted : o.Admitted v path markdown := by
    refine ⟨hcheck, hread, fun expected hexpected => ?_⟩
    by_contra hne
    exact hstale ⟨expected, hexpected, hne⟩
  cases hset : o.set.isEmpty with
  | true =>
    have hnames : o.set.names = [] := by
      rw [Record.names, List.isEmpty_iff.mp hset]
      rfl
    rw [hadmitted.run_of_kept (hchanged.trans hnames)]
    exact .kept hset
  | false =>
    have hnames : o.changed (.ofMarkdown markdown) ≠ [] := by
      rw [hchanged]
      intro hnil
      rw [Record.isEmpty, List.map_eq_nil_iff.mp hnil] at hset
      contradiction
    obtain ⟨w, hw, hwrote⟩ := hadmitted.run_of_changed hnames now
    obtain ⟨hpath, -⟩ := Vault.readRaw_eq_ok_iff.mp hread
    rw [hw, hchanged]
    by_cases hledger : v.IsLedger (recordKey path)
    · exact .ledger hset hledger (readRaw_of_ledger hwrote hpath hledger)
    · refine .written hset ?_
      rw [hwrote.readRaw (p := lookupKey path) hledger hpath, result, hempty,
        applyAll_edits_empty hcheck, render_set hset]

/-- A vault with one note, of which the block is a list. -/
def listNote : Vault :=
  ⟨"vault", ⟨.ofList [("vault/N.md", Utf8.encode "---\n- a\n---\nbody")], .empty⟩⟩

/-- Sets one key of that note. -/
def settingOne : Upsert := ⟨"N.md", .ofList [("x", .int 1)], [], none⟩

theorem decode?_list : Frontmatter.decode? "- a" = none :=
  Option.isNone_iff_eq_none.mp (by decide +kernel)

theorem replaced_listNote :
    settingOne.check = .ok "N.md" ∧
      listNote.readRaw (lookupKey "N.md") = .ok "---\n- a\n---\nbody" ∧
      (Fence.split "---\n- a\n---\nbody").1 = some "- a" ∧ Text.isBlankText "- a" = false ∧
      Frontmatter.decode? "- a" = none ∧
      Replaced settingOne listNote "N.md" "---\n- a\n---\nbody" 1
        (settingOne.run listNote 1).1 (settingOne.run listNote 1).2 := by
  have hcheck : settingOne.check = .ok "N.md" := by decide +kernel
  have hread : listNote.readRaw (lookupKey "N.md") = .ok "---\n- a\n---\nbody" := by decide +kernel
  have hdecode := decode?_list
  exact ⟨hcheck, hread, by decide, by decide, hdecode,
    replaced_of_unreadable hcheck hread (by decide) (by decide) hdecode 1⟩

/-- A block that is a list is gone after an upsert that succeeds. -/
theorem not_holds_listNote :
    (Fence.split "---\n- a\n---\nbody").1 = some "- a" ∧ Frontmatter.decode? "- a" = none ∧
      listNote.readRaw "N.md" = .ok "---\n- a\n---\nbody" ∧
      (settingOne.run listNote 1).1 = .ok ⟨"N.md", 1, ["x".toList]⟩ ∧
      (settingOne.run listNote 1).2.readRaw "N.md" = .ok "---\nx: 1\n---\nbody" ∧
      Text.holds "- a" "---\nx: 1\n---\nbody" = false := by
  refine ⟨by decide, decode?_list, ?_, ?_, ?_, by decide⟩
  · decide +kernel
  · decide +kernel
  · decide +kernel

end Upsert

end NoteVault
