import NoteVault.Proofs.Store.Medium
import NoteVault.Proofs.Vault.Place

/-! The vault that a write of a note leaves, as a whole: its files, its folders and its ledger. -/

namespace NoteVault

namespace Store

variable {s t : Store} {p : Text} {bytes : Bytes}

theorem has_insert_files {a : Text} (h : a ∈ s.files.keys) (bytes : Bytes) (q : Text) :
    Store.has ⟨s.files.insert a bytes, s.folders⟩ q = s.has q := by
  have hkeys : ∀ b, b ∈ (s.files.insert a bytes).keys ↔ b ∈ s.files.keys := by
    intro b
    rw [Index.mem_keys_insert]
    constructor
    · rintro (rfl | hb)
      · exact h
      · exact hb
    · exact .inr
  unfold has
  by_cases hfolder : Address.isFolder (Address.ofPath q) = true
  · have hany : (s.files.insert a bytes).keys.any (Address.isWithin (Address.ofPath q)) =
        s.files.keys.any (Address.isWithin (Address.ofPath q)) := by
      rw [Bool.eq_iff_iff]
      simp only [List.any_eq_true, hkeys]
    simp [hfolder, hany]
  · obtain ⟨old, hold⟩ := Index.mem_keys_iff.mp h
    by_cases hq : Address.ofPath q = a
    · subst hq
      simp [hfolder, Index.has, Index.get?_insert, hold]
    · simp [hfolder, Index.has, Index.get?_insert, hq]

theorem folders_ensureParent_congr (hhas : ∀ q, s.has q = t.has q) (hfolders : s.folders = t.folders)
    (p : Text) : (s.ensureParent p).folders = (t.ensureParent p).folders := by
  unfold ensureParent
  cases parent? p with
  | none => exact hfolders
  | some folder =>
    by_cases h : s.has folder = true
    · have ht : t.has folder = true := (hhas folder).symm.trans h
      simp [h, ht, hfolders]
    · have ht : ¬t.has folder = true := by rwa [← hhas folder]
      simp [h, ht, createFolder, hfolders]

theorem isFolder_parent {folder : Text} (h : parent? p = some folder) :
    Address.isFolder (Address.ofPath folder) = true := by
  obtain ⟨above, -, -, -, rfl⟩ := parent?_eq_some h
  rw [Address.ofPath_append_slash]
  split_ifs
  · exact Address.isFolder_append_slash []
  · exact Address.isFolder_append_slash _

/-- The folder of a file that is there is there, too. -/
theorem ensureParent_of_read? (h : s.read? p = some bytes) : s.ensureParent p = s := by
  unfold read? at h
  split_ifs at h
  have hkey : Address.ofPath p ∈ s.files.keys := Index.mem_keys_iff.mpr ⟨bytes, h⟩
  unfold ensureParent
  cases hparent : parent? p with
  | none => rfl
  | some folder =>
    have hany := List.any_eq_true.mpr ⟨_, hkey, Address.isWithin_parent hparent⟩
    have hhas : s.has folder = true := by simp [has, isFolder_parent hparent, hany]
    simp [hhas]

end Store

namespace Vault

open Address

variable {v : Vault} {path p q : Text} {bytes bytes' : Bytes} {now now' : Int}

theorem file?_eq_get? (h : isFolder (v.address path) = false) :
    v.file? path = v.store.files.get? (v.address path) := by
  rw [address] at h
  rw [file?, Store.read?, h, if_neg Bool.false_ne_true, address]

/-- The vault after some bytes are written into a file of it and that is recorded. -/
def written (v : Vault) (path : Text) (bytes : Bytes) (now : Int) : Vault :=
  ((v.writeFile path bytes).2.touch path now).2

theorem writeFile_eq (h : isFolder (v.address path) = false) (bytes : Bytes) :
    v.writeFile path bytes = (.ok (), ⟨v.root, ⟨v.store.files.insert (v.address path) bytes,
      (v.store.ensureParent (v.full path)).folders⟩⟩) := by
  have hwrite : (v.store.ensureParent (v.full path)).write? (v.full path) bytes =
      some ⟨v.store.files.insert (v.address path) bytes,
        (v.store.ensureParent (v.full path)).folders⟩ := by
    rw [address] at h
    simp [Store.write?, h, address]
  rw [writeFile_eq_match, hwrite]

theorem wrote_written (h : isFolder (v.address path) = false) (bytes : Bytes) (now : Int) :
    v.Wrote path bytes now (v.written path bytes now) := (wrote_touch h bytes now).2

theorem root_written (h : isFolder (v.address path) = false) (bytes : Bytes) (now : Int) :
    (v.written path bytes now).root = v.root := (wrote_written h bytes now).root

theorem files_written (h : isFolder (v.address path) = false) :
    (v.written path bytes now).store.files =
      (v.store.files.insert (v.address path) bytes).insert (v.address ledgerPath)
        (Ledger.encode (v.recorded path bytes now)) := by
  have hledger := ledger_writeFile h bytes
  rw [writeFile_eq h] at hledger
  rw [written, touch_eq, writeFile_eq h, writeFile_eq (not_isFolder_ledger _), hledger]
  rfl

/-- A write of a note that is there creates no folder but the one of the ledger. -/
theorem folders_written {old : Bytes} (hold : v.file? path = some old) :
    (v.written path bytes now).store.folders =
      (v.store.ensureParent (v.full ledgerPath)).folders := by
  have hfile := not_isFolder_of_file? hold
  have hkey : v.address path ∈ v.store.files.keys :=
    Index.mem_keys_iff.mpr ⟨old, (file?_eq_get? hfile).symm.trans hold⟩
  rw [written, touch_eq, writeFile_eq hfile, writeFile_eq (not_isFolder_ledger _)]
  rw [Store.ensureParent_of_read? hold]
  exact Store.folders_ensureParent_congr (Store.has_insert_files hkey bytes) rfl _

theorem ext {u w : Vault} (hroot : u.root = w.root) (hfiles : u.store.files = w.store.files)
    (hfolders : u.store.folders = w.store.folders) : u = w := by
  obtain ⟨uroot, ufiles, ufolders⟩ := u
  obtain ⟨wroot, wfiles, wfolders⟩ := w
  simp only at hroot hfiles hfolders
  rw [hroot, hfiles, hfolders]

theorem read?_written (h : isFolder (v.address path) = false) {s : Text}
    (hnote : ofPath s ≠ v.address path) (hledger : ofPath s ≠ v.address ledgerPath) :
    (v.written path bytes now).store.read? s = v.store.read? s := by
  unfold Store.read?
  rw [files_written h, Index.get?_insert, Index.get?_insert, if_neg hledger, if_neg hnote]

theorem writeNote_eq (hpath : Path.ofNote path ≠ [])
    (h : isFolder (v.address (Path.ofNote path)) = false) (markdown : Text) (now : Int) :
    v.writeNote path markdown now =
      (.ok (Note.ofMarkdown (Path.ofNote path) markdown
        (v.statBehind (Path.ofNote path) (Utf8.encode markdown) now)),
        v.written (Path.ofNote path) (Utf8.encode markdown) now) := by
  have hstat := (wrote_touch h (Utf8.encode markdown) now).1
  have hsome := (writeFile_of_not_isFolder h (Utf8.encode markdown)).1
  unfold writeNote written
  simp only [List.isEmpty_iff, hpath, if_false]
  cases hwrite : v.writeFile (Path.ofNote path) (Utf8.encode markdown) with
  | mk done u =>
    rw [hwrite] at hstat hsome
    simp only at hsome hstat ⊢
    simp [hsome, hstat, Except.map]

theorem isOk_writeNote_iff {markdown : Text} :
    (v.writeNote path markdown now).1.isOk = true ↔
      Path.ofNote path ≠ [] ∧ isFolder (v.address (Path.ofNote path)) = false := by
  constructor
  · intro h
    by_contra hrefused
    unfold writeNote at h
    by_cases hpath : Path.ofNote path = []
    · simp [hpath, Except.isOk, Except.toBool] at h
    · have hfolder : isFolder (v.address (Path.ofNote path)) = true := by
        simpa [hpath] using hrefused
      have hnone := (writeFile_of_isFolder hfolder (Utf8.encode markdown)).1
      cases hwrite : v.writeFile (Path.ofNote path) (Utf8.encode markdown) with
      | mk done u =>
        rw [hwrite] at hnone
        simp only at hnone
        simp [hpath, hwrite, hnone, Except.isOk, Except.toBool] at h
  · rintro ⟨hpath, hfile⟩
    rw [writeNote_eq hpath hfile]
    rfl

theorem writeFrontmatter_eq {α : Type} {markdown : Text}
    (hread : v.readRaw (Path.ofNote path) = .ok markdown)
    (change : Frontmatter → α × Frontmatter) (now : Int) :
    v.writeFrontmatter path change now =
      let text := Frontmatter.render (change (.ofMarkdown markdown)).2 (Fence.split markdown).2
      let key := Path.ofNote (Path.ofNote path)
      (.ok ((change (.ofMarkdown markdown)).1,
          Note.ofMarkdown key text (v.statBehind key (Utf8.encode text) now)),
        v.written key (Utf8.encode text) now) := by
  obtain ⟨hne, bytes, hbytes, -⟩ := readRaw_eq_ok_iff.mp hread
  have hwrite := writeNote_eq hne (not_isFolder_of_file? hbytes)
    (Frontmatter.render (change (.ofMarkdown markdown)).2 (Fence.split markdown).2) now
  unfold writeFrontmatter
  simp only [hread, hwrite, Except.map]

end Vault

end NoteVault
