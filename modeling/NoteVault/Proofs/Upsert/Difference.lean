import NoteVault.Proofs.Upsert.Wanted
import NoteVault.Proofs.Value.Proper

/-! The keys that an upsert reports as changed. They are computed without its edits, and yet they are
the keys under which the metadata before and after these edits differ. -/

namespace NoteVault

/-- Whether two metadata differ under a key. The order of the fields of a record does not count. -/
def Frontmatter.differAt (m after : Frontmatter) (key : Text) : Bool :=
  match m.get? key, after.get? key with
  | none, none => false
  | some v, some w => !v.same w
  | _, _ => true

namespace Upsert

variable {o : Upsert} {m : Frontmatter} {path key : Text} {v : Value}

theorem has_eq_differAt (hunset : key ∈ o.unset) :
    m.has key = m.differAt (Edit.applyAll o.edits m) key := by
  rw [Frontmatter.differAt, get?_applyAll_edits, if_pos hunset, Record.has]
  cases m.get? key <;> rfl

/-- A key that is neither set nor unset keeps its value, and a proper value equals itself. -/
theorem differAt_of_untouched (hm : m.IsProper) (hset : key ∉ o.set.names) (hunset : key ∉ o.unset) :
    m.differAt (Edit.applyAll o.edits m) key = false := by
  have hnone : o.set.get? key = none := lookup_eq_none_of_not_mem hset
  rw [Frontmatter.differAt, get?_applyAll_edits, if_neg hunset, hnone, Option.none_or]
  cases hget : m.get? key with
  | none => rfl
  | some v =>
    dsimp only
    rw [hm.same_self hget]
    rfl

section Checked

variable (hcheck : o.check = .ok path)

include hcheck

theorem get?_applyAll_of_set (hset : o.set.get? key = some v) :
    (Edit.applyAll o.edits m).get? key = some v := by
  rw [get?_applyAll_edits, if_neg (not_mem_unset_of_check hcheck hset), hset, Option.some_or]

theorem not_mem_unset_of_mem_names (h : key ∈ o.set.names) : key ∉ o.unset := by
  obtain ⟨e, he, rfl⟩ := List.mem_map.mp h
  exact not_mem_unset_of_check hcheck (Record.get?_eq_some_iff.mpr he)

theorem isNew_eq_differAt {e : Text × Value} (he : e ∈ o.set.entries) :
    isNew m e = m.differAt (Edit.applyAll o.edits m) e.1 := by
  have hset : o.set.get? e.1 = some e.2 := Record.get?_eq_some_iff.mpr he
  rw [isNew, Frontmatter.differAt, get?_applyAll_of_set hcheck hset]
  cases m.get? e.1 <;> rfl

theorem changed_eq_filter : o.changed m =
    (o.set.names ++ o.unset.eraseDups).filter (m.differAt (Edit.applyAll o.edits m)) := by
  have hset : (o.set.entries.filter (isNew m)).map Prod.fst =
      o.set.names.filter (m.differAt (Edit.applyAll o.edits m)) := by
    rw [Record.names, List.filter_map]
    exact congrArg (List.map Prod.fst)
      (List.filter_congr fun e he => isNew_eq_differAt hcheck he)
  have hunset : o.unset.eraseDups.filter (fun key => m.has key &&
        !((o.set.entries.filter (isNew m)).map Prod.fst).contains key) =
      o.unset.eraseDups.filter (m.differAt (Edit.applyAll o.edits m)) := by
    refine List.filter_congr fun key hkey => ?_
    have hmem : key ∈ o.unset := List.mem_eraseDups.mp hkey
    have hnew : ((o.set.entries.filter (isNew m)).map Prod.fst).contains key = false := by
      rw [hset, Bool.eq_false_iff, ne_eq, List.contains_iff_mem]
      exact fun h => not_mem_unset_of_mem_names hcheck (List.mem_of_mem_filter h) hmem
    rw [hnew, has_eq_differAt hmem, Bool.not_false, Bool.and_true]
  rw [changed, foldl_unset, hunset, hset, List.filter_append]

theorem nodup_changed : (o.changed m).Nodup := by
  rw [changed_eq_filter hcheck]
  refine List.Nodup.filter _ (List.nodup_append.mpr ⟨o.set.nodup, nodup_eraseDups o.unset, ?_⟩)
  rintro a ha b hb rfl
  exact not_mem_unset_of_mem_names hcheck ha (List.mem_eraseDups.mp hb)

theorem mem_changed_iff (hm : m.IsProper) :
    key ∈ o.changed m ↔ m.differAt (Edit.applyAll o.edits m) key = true := by
  rw [changed_eq_filter hcheck, List.mem_filter, List.mem_append, List.mem_eraseDups]
  refine ⟨And.right, fun h => ⟨?_, h⟩⟩
  by_contra htouched
  obtain ⟨hset, hunset⟩ := not_or.mp htouched
  rw [differAt_of_untouched hm hset hunset] at h
  contradiction

theorem run_of_unchanged {w : Vault} {note : Note} (hnote : w.getNote path = .ok note)
    (hexpected : ∀ time ∈ o.expected, time = note.mtime) (h : o.changed note.frontmatter = [])
    (now : Int) : o.run w now = (.ok ⟨path, note.mtime, []⟩, w) := by
  obtain ⟨markdown, hread, rfl⟩ := Vault.getNote_eq_ok_iff.mp hnote
  have hadmitted : o.Admitted w path markdown := ⟨hcheck, hread, hexpected⟩
  exact hadmitted.run_of_kept h now

end Checked

/-- The reported keys of a valid upsert are the keys under which the metadata before and after its
edits differ: each once, those that are set and then those that are unset, in their orders. If there
are none, the upsert succeeds and leaves the vault as it is. -/
theorem changed_eq_difference (hcheck : o.check = .ok path) (hm : m.IsProper) :
    let after := Edit.applyAll o.edits m
    (∀ key, key ∈ o.changed m ↔ m.differAt after key = true) ∧ (o.changed m).Nodup ∧
      o.changed m = (o.set.names ++ o.unset.eraseDups).filter (m.differAt after) ∧
      (o.changed m = [] → ∀ (w : Vault) (note : Note) (now : Int), w.getNote path = .ok note →
        note.frontmatter = m → (∀ time ∈ o.expected, time = note.mtime) →
        o.run w now = (.ok ⟨path, note.mtime, []⟩, w)) := by
  refine ⟨fun key => mem_changed_iff hcheck hm, nodup_changed hcheck, changed_eq_filter hcheck, ?_⟩
  rintro hchanged w note now hnote rfl hexpected
  exact run_of_unchanged hcheck hnote hexpected hchanged now

/-- Sets a key and unsets two, one of which is not there, the other twice. -/
def dropOwner : Upsert := ⟨"N.md", .ofList [("priority", .int 2)], ["owner", "due", "owner"], none⟩

/-- Sets a key to the value that it has already, and unsets one that is not there. -/
def keepOwner : Upsert := ⟨"N", .ofList [("owner", .text "kim")], ["due"], some 0⟩

def ownerText : Text := "---\nowner: kim\n---\nbody"

def ownerNote : Vault := ⟨"vault", ⟨.ofList [("vault/N.md", Utf8.encode ownerText)], .empty⟩⟩

theorem changed_eq_difference_owner :
    dropOwner.check = .ok "N.md" ∧ keepOwner.check = .ok "N.md" ∧
      (Frontmatter.ofMarkdown ownerText).IsProper ∧
      dropOwner.changed (.ofMarkdown ownerText) = ["priority".toList, "owner".toList] ∧
      keepOwner.run ownerNote 1 = (.ok ⟨"N.md", 0, []⟩, ownerNote) := by
  have hdrop : dropOwner.check = .ok "N.md" := by decide +kernel
  have hkeep : keepOwner.check = .ok "N.md" := by decide +kernel
  have hproper := Frontmatter.isProper_ofMarkdown ownerText
  have hread : ownerNote.readRaw (Path.ofNote "N.md") = .ok ownerText := by decide +kernel
  have hnote := Vault.getNote_eq_ok_iff.mpr ⟨ownerText, hread, rfl⟩
  have htime : (ownerNote.ledger.stat (Path.ofNote "N.md")).mtime = 0 := by decide +kernel
  have hkept : keepOwner.changed (.ofMarkdown ownerText) = [] := by decide +kernel
  obtain ⟨-, -, hchanged, -⟩ := changed_eq_difference hdrop hproper
  obtain ⟨-, -, -, hrun⟩ := changed_eq_difference hkeep hproper
  have hrun := hrun hkept ownerNote _ 1 hnote rfl fun _ h => (Option.some.inj h).symm.trans htime.symm
  dsimp only [Note.ofMarkdown] at hrun
  rw [htime] at hrun
  exact ⟨hdrop, hkeep, hproper, hchanged.trans (by decide +kernel), hrun⟩

end Upsert

end NoteVault
