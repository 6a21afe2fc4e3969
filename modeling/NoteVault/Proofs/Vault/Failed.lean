import NoteVault.Proofs.Store.Medium
import NoteVault.Proofs.Vault.Listing

/-!
What a write of a note leaves that fails. The folder that a path names is created before the write is
tried, and it stays. Where the times of the note cannot be recorded, the note stays written.
-/

namespace NoteVault

namespace Store

variable {p : Text}

/-- The folder of a path to a folder is that folder. -/
theorem ensureParent_of_isFolder (h : Address.isFolder (Address.ofPath p) = true)
    (hlast : ∀ c ∈ p.getLast?, Text.isBlank c = false) (s : Store) :
    s.ensureParent p = if s.has p then s else s.createFolder p := by
  cases p using List.reverseRecOn with
  | nil => rfl
  | append_singleton q c =>
    have hc : c = '/' := by
      by_contra hc
      rw [Address.isFolder_ofPath_append (hlast c (by simp)) hc q] at h
      contradiction
    subst hc
    have hcut : Text.cutLast? '/' (q ++ ['/']) = some (q, []) := by
      simp [Text.cutLast?, Text.cut?]
    by_cases hq : q = []
    · subst hq
      rfl
    · have hparent : parent? (q ++ ['/']) = some (q ++ ['/']) := by
        simp [parent?, hcut, hq]
      rw [ensureParent, hparent]

end Store

namespace Vault

open Address

variable {v w : Vault} {path p markdown : Text} {now : Int} {f : Fault}

theorem getLast?_full (hp : ∀ c ∈ p.getLast?, Text.isBlank c = false) (v : Vault) :
    ∀ c ∈ (v.full p).getLast?, Text.isBlank c = false := by
  have hdrop : ∀ c ∈ (p.dropWhile (· == '/')).getLast?, Text.isBlank c = false := by
    intro c hc
    apply hp c
    obtain ⟨init, hinit⟩ := List.getLast?_eq_some_iff.mp hc
    obtain ⟨lead, hlead⟩ := List.dropWhile_suffix (· == '/') (l := p)
    rw [← hlead, hinit]
    simp
  unfold full Path.join
  by_cases hroot : (Text.dropTail (· == '/') v.root).isEmpty = true
  · simpa [hroot] using hdrop
  · simp only [hroot]
    cases hrest : p.dropWhile (· == '/') with
    | nil =>
      intro c hc
      obtain rfl : '/' = c := by simpa using hc
      decide
    | cons d rest =>
      rw [hrest] at hdrop
      simpa using hdrop

/-- A vault with one more folder. -/
def withFolder (v : Vault) (folder : Text) : Vault :=
  { v with store := v.store.createFolder folder }

/-- What a write that fails leaves in a medium that does not: it has created the folder that its path
names, or nothing. -/
theorem eq_of_writeNote_error (h : v.writeNote path markdown now = (.error f, w)) :
    w = if Path.ofNote path = [] ∨ v.store.has (v.full (Path.ofNote path)) = true then v
      else v.withFolder (v.full (Path.ofNote path)) := by
  have hrefused : ¬(v.writeNote path markdown now).1.isOk = true := by
    rw [h]
    exact Bool.false_ne_true
  rw [isOk_writeNote_iff] at hrefused
  by_cases hempty : Path.ofNote path = []
  · rw [if_pos (.inl hempty)]
    simp only [writeNote, hempty, List.isEmpty_nil, if_true, Prod.mk.injEq] at h
    exact h.2.symm
  · have hfolder : isFolder (v.address (Path.ofNote path)) = true := by
      simpa [hempty] using hrefused
    have hmade := Store.ensureParent_of_isFolder hfolder
      (getLast?_full (Path.getLast?_ofNote path) v) v.store
    have hwrite : (v.store.ensureParent (v.full (Path.ofNote path))).write?
        (v.full (Path.ofNote path)) (Utf8.encode markdown) = none := if_pos hfolder
    simp only [writeNote, List.isEmpty_iff, hempty, if_false, writeFile_eq_match, hwrite,
      Prod.mk.injEq] at h
    rw [← h.2, hmade]
    by_cases hhas : v.store.has (v.full (Path.ofNote path)) = true <;> simp [hempty, hhas, withFolder]

/-- Whether a vault answers as another one, except that a folder and those that lead to it may be
there: a path to such a folder is then not missing, but it is no note either. -/
structure SameButFolder (v : Vault) (folder : Text) (w : Vault) : Prop where
  root : w.root = v.root
  files : w.store.files = v.store.files
  has : ∀ q, w.store.has q = v.store.has q ∨
    v.store.has q = false ∧ w.store.has q = true ∧ isFolder (ofPath q) = true ∧
      isWithin (ofPath q) (ofPath folder) = true
  paths : ∀ ext, w.listPaths ext = v.listPaths ext
  notes : w.listNotes = v.listNotes
  raw : ∀ q, w.readRaw q = v.readRaw q ∨
    v.readRaw q = .error (.noteMissing (Path.ofNote q)) ∧ w.readRaw q = .error .noteUnreadable ∧
      isWithin (v.address (Path.ofNote q)) (ofPath folder) = true
  note : ∀ q, w.getNote q = v.getNote q ∨
    v.readRaw (Path.ofNote q) = .error (.noteMissing (Path.ofNote (Path.ofNote q))) ∧
      w.getNote q = .error .noteUnreadable ∧
      isWithin (v.address (Path.ofNote (Path.ofNote q))) (ofPath folder) = true

section FoldersAdded

variable {folder : Text} {t : Store} (h : v.store.FoldersAdded folder t)

include h

theorem readRaw_of_foldersAdded (q : Text) : (Vault.mk v.root t).readRaw q = v.readRaw q ∨
    v.readRaw q = .error (.noteMissing (Path.ofNote q)) ∧
      (Vault.mk v.root t).readRaw q = .error .noteUnreadable ∧
      isWithin (v.address (Path.ofNote q)) (ofPath folder) = true := by
  have hfull : (Vault.mk v.root t).full (Path.ofNote q) = v.full (Path.ofNote q) := rfl
  unfold readRaw
  simp only [hfull, h.read?]
  rcases h.has (v.full (Path.ofNote q)) with hsame | ⟨hmissing, hthere, hfolder, hwithin⟩
  · exact .inl (by rw [hsame])
  · have hnone : v.store.read? (v.full (Path.ofNote q)) = none := if_pos hfolder
    by_cases hempty : Path.ofNote q = []
    · exact .inl (by simp [hempty])
    · exact .inr ⟨by simp [hmissing], by simp [hthere, hempty, hnone], hwithin⟩

theorem sameButFolder_of_foldersAdded : v.SameButFolder folder ⟨v.root, t⟩ := by
  -- What is listed and the ledger depend on the files alone.
  obtain ⟨files, folders⟩ := t
  obtain rfl : files = v.store.files := h.files
  refine ⟨rfl, rfl, h.has, fun _ => rfl, rfl, readRaw_of_foldersAdded h, fun q => ?_⟩
  have hledger : (Vault.mk v.root ⟨v.store.files, folders⟩).ledger = v.ledger := rfl
  unfold getNote
  simp only [hledger]
  rcases readRaw_of_foldersAdded h (Path.ofNote q) with hsame | ⟨hmissing, hfound, hwithin⟩
  · exact .inl (by rw [hsame])
  · exact .inr ⟨hmissing, by rw [hfound]; rfl, hwithin⟩

end FoldersAdded

/-- Whether a vault is another one apart from the files of some paths and the folders that lead to them. -/
structure SameApart (v : Vault) (ps : List Text) (w : Vault) : Prop where
  root : w.root = v.root
  files : ∀ a, (∀ p ∈ ps, a ≠ v.address p) → w.store.files.get? a = v.store.files.get? a
  has : ∀ q, w.store.has q = v.store.has q ∨ ∃ p ∈ ps, isWithin (ofPath q) (v.address p) = true
  listed : ∀ ext q, (∀ p ∈ ps, q ≠ Path.relative v.root (v.address p)) →
    (q ∈ w.listPaths ext ↔ q ∈ v.listPaths ext)

/-- What is listed follows from the files. -/
theorem mem_listPaths_congr {ps : List Text} {ext q : Text} (hroot : w.root = v.root)
    (hfiles : ∀ a, (∀ p ∈ ps, a ≠ v.address p) → w.store.files.get? a = v.store.files.get? a)
    (hq : ∀ p ∈ ps, q ≠ Path.relative v.root (v.address p)) :
    q ∈ w.listPaths ext ↔ q ∈ v.listPaths ext := by
  have hkeys : ∀ a, Path.relative v.root a = q → (a ∈ w.store.files.keys ↔ a ∈ v.store.files.keys) := by
    rintro a rfl
    rw [Index.mem_keys_iff, Index.mem_keys_iff, hfiles a fun p hp ha => hq p hp (by rw [ha])]
  simp only [mem_listPaths, mem_filesWithin, hroot, folder_congr hroot]
  refine and_congr_left fun _ => exists_congr fun a => ?_
  constructor
  · rintro ⟨⟨ha, hwithin⟩, hrel⟩
    exact ⟨⟨(hkeys a hrel).mp ha, hwithin⟩, hrel⟩
  · rintro ⟨⟨ha, hwithin⟩, hrel⟩
    exact ⟨⟨(hkeys a hrel).mpr ha, hwithin⟩, hrel⟩

namespace SameApart

variable {u : Vault} {ps qs : List Text}

theorem refl (v : Vault) (ps : List Text) : v.SameApart ps v :=
  ⟨rfl, fun _ _ => rfl, fun _ => .inl rfl, fun _ _ _ => .rfl⟩

theorem trans (hvu : v.SameApart ps u) (huw : u.SameApart qs w) : v.SameApart (ps ++ qs) w := by
  have haddress : ∀ q, u.address q = v.address q := address_congr hvu.root
  have hroot : w.root = v.root := huw.root.trans hvu.root
  have hfiles : ∀ a, (∀ p ∈ ps ++ qs, a ≠ v.address p) →
      w.store.files.get? a = v.store.files.get? a := by
    intro a ha
    rw [huw.files a fun q hq => by rw [haddress]; exact ha q (List.mem_append_right ps hq)]
    exact hvu.files a fun p hp => ha p (List.mem_append_left qs hp)
  refine ⟨hroot, hfiles, fun q => ?_, fun ext q hq => mem_listPaths_congr hroot hfiles hq⟩
  rcases huw.has q with hsame | ⟨p, hp, hwithin⟩
  · rcases hvu.has q with hsame' | ⟨p, hp, hwithin⟩
    · exact .inl (hsame.trans hsame')
    · exact .inr ⟨p, List.mem_append_left qs hp, hwithin⟩
  · exact .inr ⟨p, List.mem_append_right ps hp, haddress p ▸ hwithin⟩

end SameApart

/-- Whatever comes of it, a write of a file concerns that file and the folders that lead to it. -/
theorem sameApart_of_sameButFile {made t : Store} (hmade : v.store.FoldersAdded (v.full p) made)
    (hleft : made.SameButFile (v.full p) t) : v.SameApart [p] ⟨v.root, t⟩ := by
  have hfiles : ∀ a, (∀ q ∈ [p], a ≠ v.address q) → t.files.get? a = v.store.files.get? a := by
    intro a ha
    rw [hleft.files a (ha p (List.mem_singleton_self p)), hmade.files]
  refine ⟨rfl, hfiles, fun q => ?_, fun ext q hq => mem_listPaths_congr rfl hfiles hq⟩
  rcases hleft.has q with hsame | hwithin
  · rcases hmade.has q with hsame' | ⟨-, -, -, hwithin⟩
    · exact .inl (hsame.trans hsame')
    · exact .inr ⟨p, List.mem_singleton_self p, hwithin⟩
  · exact .inr ⟨p, List.mem_singleton_self p, hwithin⟩

theorem ledger_of_files_insert {bytes : Bytes} (hroot : w.root = v.root)
    (hfiles : w.store.files = v.store.files.insert (v.address p) bytes) (hledger : ¬v.IsLedger p) :
    w.ledger = v.ledger := by
  have hne : v.address ledgerPath ≠ v.address p := Ne.symm hledger
  rw [ledger_eq, ledger_eq, file?_eq_get? w.not_isFolder_ledger, file?_eq_get? v.not_isFolder_ledger,
    address_congr hroot, hfiles, Index.get?_insert, if_neg hne]

section Medium

variable [Medium] {bytes : Bytes}

/-- What a write of a file comes to, wherever it fails. -/
theorem writeFile_cases (v : Vault) (p : Text) (bytes : Bytes) :
    ∃ made, v.store.FoldersAdded (v.full p) made ∧
      (v.writeFile p bytes = (.error .folderFailed, { v with store := made }) ∨
      (∃ t, v.writeFile p bytes = (.error .writeFailed, { v with store := t }) ∧
        made.SameButFile (v.full p) t ∧ (Medium.IsWhole → t = made)) ∨
      isFolder (v.address p) = false ∧ v.writeFile p bytes =
        (.ok (), { v with store := { made with files := made.files.insert (v.address p) bytes } })) := by
  have hmade := v.store.foldersAdded_makeParent (v.full p)
  unfold writeFile
  cases hparent : v.store.makeParent (v.full p) with
  | mk done made =>
    rw [hparent] at hmade
    refine ⟨made, hmade, ?_⟩
    cases done with
    | none => exact .inl rfl
    | some _ =>
      right
      dsimp only
      cases hleft : Medium.unwritten? made (v.full p) bytes with
      | some t => exact .inl ⟨t, rfl, Medium.sameButFile hleft, fun hwhole => hwhole hleft⟩
      | none =>
        cases hfolder : isFolder (v.address p) with
        | true =>
          have hnone : made.write? (v.full p) bytes = none := if_pos hfolder
          rw [hnone]
          exact .inl ⟨made, rfl, .refl made _, fun _ => rfl⟩
        | false =>
          have hsome : made.write? (v.full p) bytes =
              some { made with files := made.files.insert (v.address p) bytes } := by
            unfold address at hfolder
            simp [Store.write?, hfolder, address]
          rw [hsome]
          exact .inr ⟨rfl, rfl⟩

theorem sameApart_writeFile (v : Vault) (p : Text) (bytes : Bytes) :
    v.SameApart [p] (v.writeFile p bytes).2 := by
  obtain ⟨made, hmade, hcase | ⟨t, hcase, hleft, -⟩ | ⟨-, hcase⟩⟩ := v.writeFile_cases p bytes
  · rw [hcase]
    exact sameApart_of_sameButFile hmade (.refl made _)
  · rw [hcase]
    exact sameApart_of_sameButFile hmade hleft
  · rw [hcase]
    refine sameApart_of_sameButFile hmade ⟨rfl, fun a ha => ?_⟩
    exact (Index.get?_insert _ _ _ _).trans (if_neg ha)

theorem writeFile_eq_error (h : v.writeFile p bytes = (.error f, w)) :
    f = .folderFailed ∧ v.SameButFolder (v.full p) w ∨
      f = .writeFailed ∧ (Medium.IsWhole → v.SameButFolder (v.full p) w) := by
  obtain ⟨made, hmade, hcase | ⟨t, hcase, -, hwhole⟩ | ⟨-, hcase⟩⟩ := v.writeFile_cases p bytes
  · obtain ⟨hf, rfl⟩ := Prod.mk.inj (h.symm.trans hcase)
    exact .inl ⟨Except.error.inj hf, sameButFolder_of_foldersAdded hmade⟩
  · obtain ⟨hf, rfl⟩ := Prod.mk.inj (h.symm.trans hcase)
    refine .inr ⟨Except.error.inj hf, fun hm => ?_⟩
    rw [hwhole hm]
    exact sameButFolder_of_foldersAdded hmade
  · obtain ⟨hf, -⟩ := Prod.mk.inj (h.symm.trans hcase)
    contradiction

theorem writeFile_eq_ok (h : v.writeFile p bytes = (.ok (), w)) :
    isFolder (v.address p) = false ∧
      w.store.files = v.store.files.insert (v.address p) bytes := by
  obtain ⟨made, hmade, hcase | ⟨t, hcase, -, -⟩ | ⟨hfile, hcase⟩⟩ := v.writeFile_cases p bytes
  · obtain ⟨hf, -⟩ := Prod.mk.inj (h.symm.trans hcase)
    contradiction
  · obtain ⟨hf, -⟩ := Prod.mk.inj (h.symm.trans hcase)
    contradiction
  · obtain ⟨-, rfl⟩ := Prod.mk.inj (h.symm.trans hcase)
    exact ⟨hfile, by rw [← hmade.files]⟩

/-- Times that cannot be recorded leave the other files, and all files if no file is left half written. -/
theorem touch_eq_error (h : v.touch p now = (.error f, w)) :
    f = .ledgerFailed ∧ v.SameApart [ledgerPath] w ∧
      (Medium.IsWhole → w.store.files = v.store.files) := by
  unfold touch at h
  split at h
  · obtain ⟨hf, rfl⟩ := Prod.mk.inj h
    exact ⟨(Except.error.inj hf).symm, .refl v _, fun _ => rfl⟩
  · next times _ =>
    dsimp only at h
    have hapart := v.sameApart_writeFile ledgerPath
      (Ledger.encode (times.insert p (Stat.touch (times.get? p) now)))
    split at h
    · next fault u hwrite =>
      obtain ⟨hf, rfl⟩ := Prod.mk.inj h
      rw [hwrite] at hapart
      refine ⟨(Except.error.inj hf).symm, hapart, fun hm => ?_⟩
      rcases writeFile_eq_error hwrite with ⟨-, hsame⟩ | ⟨-, hsame⟩
      · exact hsame.files
      · exact (hsame hm).files
    · obtain ⟨hf, -⟩ := Prod.mk.inj h
      contradiction

/-- What a write of a note that fails answers and leaves. -/
inductive FailedWrite (v : Vault) (p : Text) (bytes : Bytes) : Fault → Vault → Prop
  | unnamed (empty : p = []) : FailedWrite v p bytes .notePathEmpty v
  | folder {w : Vault} (same : v.SameButFolder (v.full p) w) : FailedWrite v p bytes .folderFailed w
  | file {w : Vault} (apart : v.SameApart [p] w)
      (whole : Medium.IsWhole → v.SameButFolder (v.full p) w) : FailedWrite v p bytes .writeFailed w
  /-- The note is written, but that is not recorded. -/
  | times {w : Vault} (apart : v.SameApart [p, ledgerPath] w)
      (note : ¬v.IsLedger p → w.file? p = some bytes)
      (whole : Medium.IsWhole → w.store.files = v.store.files.insert (v.address p) bytes)
      (ledger : Medium.IsWhole → ¬v.IsLedger p → w.ledger = v.ledger) :
      FailedWrite v p bytes .ledgerFailed w

theorem failedWrite_times {u : Vault} (hwrite : v.writeFile p bytes = (.ok (), u))
    (htouch : u.touch p now = (.error f, w)) : v.FailedWrite p bytes f w := by
  obtain ⟨hfile, hfiles⟩ := writeFile_eq_ok hwrite
  obtain ⟨rfl, hledger, hwhole⟩ := touch_eq_error htouch
  have hnote := v.sameApart_writeFile p bytes
  rw [hwrite] at hnote
  have hapart : v.SameApart [p, ledgerPath] w := hnote.trans hledger
  have hfiles' : Medium.IsWhole → w.store.files = v.store.files.insert (v.address p) bytes :=
    fun hm => (hwhole hm).trans hfiles
  refine .times hapart (fun hp => ?_) hfiles' fun hm hp =>
    ledger_of_files_insert hapart.root (hfiles' hm) hp
  have hkeep : w.store.files.get? (v.address p) = u.store.files.get? (v.address p) := by
    refine hledger.files _ fun q hq => ?_
    rw [List.mem_singleton.mp hq, address_congr hnote.root]
    exact hp
  have hpath : w.address p = v.address p := address_congr hapart.root p
  rw [file?_eq_get? (hpath ▸ hfile), hpath, hkeep, hfiles, Index.get?_insert, if_pos rfl]

/-- What a failed write leaves, wherever an access to the store fails. -/
theorem failedWrite_writeNote (h : v.writeNote path markdown now = (.error f, w)) :
    v.FailedWrite (Path.ofNote path) (Utf8.encode markdown) f w := by
  unfold writeNote at h
  dsimp only at h
  split at h
  · next hempty =>
    obtain ⟨hf, rfl⟩ := Prod.mk.inj h
    obtain rfl := Except.error.inj hf
    exact .unnamed (List.isEmpty_iff.mp hempty)
  · split at h
    · next fault u hwrite =>
      obtain ⟨hf, rfl⟩ := Prod.mk.inj h
      obtain rfl := Except.error.inj hf
      have hapart := v.sameApart_writeFile (Path.ofNote path) (Utf8.encode markdown)
      rw [hwrite] at hapart
      rcases writeFile_eq_error hwrite with ⟨rfl, hsame⟩ | ⟨rfl, hsame⟩
      · exact .folder hsame
      · exact .file hapart hsame
    · next u hwrite =>
      obtain ⟨hstat, rfl⟩ := Prod.mk.inj h
      cases htouch : u.touch (Path.ofNote path) now with
      | mk stat left =>
        rw [htouch] at hstat
        cases stat with
        | error fault =>
          obtain rfl := Except.error.inj hstat
          exact failedWrite_times hwrite htouch
        | ok stat => contradiction

end Medium

/-- A vault whose only note lies in a folder that stands where the ledger is kept. -/
def ledgerFolder : Vault where
  root := "vault"
  store.files := Index.empty.insert "vault/.notebase/stat.json/x.md" (Utf8.encode "text")
  store.folders := Index.empty.insert "vault/.notebase/stat.json/" ()

end Vault

end NoteVault
