import NoteVault.Proofs.Store.Address
import NoteVault.Proofs.Text.Utf8
import NoteVault.Proofs.Vault.Ledger
import NoteVault.Vault.Basic

/-! What a write of a note leaves behind: the bytes of every file and the entries of the ledger. -/

namespace NoteVault

/-- In a medium that does not fail the folder of a path is created if it is not there. -/
theorem Store.makeParent_eq (s : Store) (p : Text) :
    s.makeParent p = (some (), s.ensureParent p) := by
  unfold makeParent ensureParent
  cases parent? p with
  | none => rfl
  | some folder =>
    cases hhas : s.has folder with
    | true => simp only [hhas, if_true]; rfl
    | false => simp only [hhas, Bool.false_eq_true, if_false]; rfl

namespace Vault

variable {v w : Vault} {path p q markdown : Text} {bytes : Bytes} {now : Int}

/-- The place in the store that a path leads to. -/
def address (v : Vault) (path : Text) : Text := Address.ofPath (v.full path)

/-- The bytes of a file of the vault. -/
def file? (v : Vault) (path : Text) : Option Bytes := v.store.read? (v.full path)

/-- Whether a path leads to the file that keeps the ledger. -/
def IsLedger (v : Vault) (path : Text) : Prop := v.address path = v.address ledgerPath

instance (v : Vault) (path : Text) : Decidable (v.IsLedger path) :=
  inferInstanceAs (Decidable (_ = _))

theorem full_congr (h : w.root = v.root) (path : Text) : w.full path = v.full path := by
  rw [full, full, h]

theorem address_congr (h : w.root = v.root) (path : Text) : w.address path = v.address path := by
  rw [address, address, full_congr h]

theorem isLedger_congr (h : w.root = v.root) : w.IsLedger path ↔ v.IsLedger path := by
  rw [IsLedger, IsLedger, address_congr h, address_congr h]

theorem not_isFolder_of_file? (h : v.file? path = some bytes) :
    Address.isFolder (v.address path) = false := by
  unfold file? Store.read? at h
  split_ifs at h with hfolder
  exact Bool.eq_false_iff.mpr hfolder

theorem has_of_file? (h : v.file? path = some bytes) : v.store.has (v.full path) = true := by
  have hfolder : Address.isFolder (Address.ofPath (v.full path)) = false := not_isFolder_of_file? h
  rw [file?, Store.read?, hfolder, if_neg Bool.false_ne_true] at h
  rw [Store.has, hfolder, if_neg Bool.false_ne_true, Index.has, h]
  rfl

theorem not_isFolder_ledger (v : Vault) : Address.isFolder (v.address ledgerPath) = false := by
  obtain ⟨r, hr⟩ : ∃ r, v.full ledgerPath = r ++ ['n'] := by
    unfold full Path.join
    dsimp only
    split_ifs
    · exact ⟨".notebase/stat.jso".toList, rfl⟩
    · refine ⟨Text.dropTail (· == '/') v.root ++ "/.notebase/stat.jso".toList, ?_⟩
      rw [List.append_assoc]
      rfl
  rw [address, hr]
  exact Address.isFolder_ofPath_append (by decide) (by decide) r

theorem ledger_eq (v : Vault) : v.ledger = ((v.file? ledgerPath).map Ledger.decode).getD .empty :=
  rfl

theorem fits_ledger (v : Vault) : v.ledger.Fits := by
  rw [ledger_eq]
  cases v.file? ledgerPath with
  | none => exact fun e he => absurd he List.not_mem_nil
  | some bytes => exact Ledger.fits_decode bytes

theorem readRaw_eq_ok_iff : v.readRaw path = .ok markdown ↔
    Path.ofNote path ≠ [] ∧
      ∃ bytes, v.file? (Path.ofNote path) = some bytes ∧ Utf8.decode bytes = markdown := by
  constructor
  · intro h
    unfold readRaw at h
    dsimp only at h
    split_ifs at h with hmissing
    · simp only [Bool.or_eq_true, List.isEmpty_iff, not_or] at hmissing
      split at h
      · next bytes hbytes => exact ⟨hmissing.1, bytes, hbytes, Except.ok.inj h⟩
      · contradiction
  · rintro ⟨hpath, bytes, hbytes, rfl⟩
    have hfound : ((Path.ofNote path).isEmpty || !v.store.has (v.full (Path.ofNote path))) = false := by
      simp [has_of_file? hbytes, hpath]
    have hread : v.store.read? (v.full (Path.ofNote path)) = some bytes := hbytes
    rw [readRaw, hfound, if_neg Bool.false_ne_true, hread]

theorem getNote_eq_ok_iff {note : Note} : v.getNote path = .ok note ↔
    ∃ markdown, v.readRaw (Path.ofNote path) = .ok markdown ∧
      note = Note.ofMarkdown (Path.ofNote path) markdown (v.ledger.stat (Path.ofNote path)) := by
  unfold getNote
  dsimp only
  cases v.readRaw (Path.ofNote path) with
  | error f => exact ⟨fun h => (nomatch h), fun ⟨_, h, _⟩ => (nomatch h)⟩
  | ok markdown =>
    constructor
    · intro h
      exact ⟨markdown, rfl, (Except.ok.inj h).symm⟩
    · rintro ⟨_, hmarkdown, rfl⟩
      rw [← Except.ok.inj hmarkdown]
      rfl

/-- Whether two vaults have the same root and the same files. -/
structure SameFiles (v w : Vault) : Prop where
  root : w.root = v.root
  file : ∀ q, w.file? q = v.file? q

theorem SameFiles.refl (v : Vault) : v.SameFiles v := ⟨rfl, fun _ => rfl⟩

theorem SameFiles.ledger (h : v.SameFiles w) : w.ledger = v.ledger := by
  rw [ledger_eq, ledger_eq, h.file]

/-- In a medium that does not fail a file is written as its address allows it. -/
theorem writeFile_eq_match (v : Vault) (path : Text) (bytes : Bytes) :
    v.writeFile path bytes =
      match (v.store.ensureParent (v.full path)).write? (v.full path) bytes with
      | some store => (.ok (), { v with store })
      | none => (.error .writeFailed, { v with store := v.store.ensureParent (v.full path) }) := by
  rw [writeFile, Store.makeParent_eq]
  rfl

theorem writeFile_of_isFolder (h : Address.isFolder (v.address path) = true) (bytes : Bytes) :
    (v.writeFile path bytes).1 = .error .writeFailed ∧ v.SameFiles (v.writeFile path bytes).2 := by
  have hwrite : (v.store.ensureParent (v.full path)).write? (v.full path) bytes = none := if_pos h
  rw [writeFile_eq_match, hwrite]
  exact ⟨rfl, rfl, fun q => Store.read?_ensureParent v.store (v.full path) (v.full q)⟩

theorem writeFile_of_not_isFolder (h : Address.isFolder (v.address path) = false) (bytes : Bytes) :
    (v.writeFile path bytes).1 = .ok () ∧ (v.writeFile path bytes).2.root = v.root ∧
      ∀ q, (v.writeFile path bytes).2.file? q =
        if v.address q = v.address path then some bytes else v.file? q := by
  obtain ⟨store, hwrite⟩ := Option.isSome_iff_exists.mp (by
    rw [Store.isSome_write? (v.store.ensureParent (v.full path)) (v.full path) bytes]
    exact (congrArg not h).trans rfl)
  rw [writeFile_eq_match, hwrite]
  refine ⟨rfl, rfl, fun q => ?_⟩
  have hread := Store.read?_write? hwrite (v.full q)
  rw [Store.read?_ensureParent] at hread
  exact hread

theorem readLedger?_eq (v : Vault) : v.readLedger? = some v.ledger := by
  have hfolder : Address.isFolder (Address.ofPath (v.full ledgerPath)) = false :=
    v.not_isFolder_ledger
  unfold readLedger? ledger Store.has Store.read?
  simp only [hfolder, Index.has]
  cases v.store.files.get? (Address.ofPath (v.full ledgerPath)) <;> simp

/-- In a medium that does not fail the times of a note are always recorded. -/
theorem touch_eq (v : Vault) (path : Text) (now : Int) :
    v.touch path now = (.ok (Stat.touch (v.ledger.get? path) now),
      (v.writeFile ledgerPath (Ledger.encode
        (v.ledger.insert path (Stat.touch (v.ledger.get? path) now)))).2) := by
  rw [touch, readLedger?_eq]
  dsimp only
  have hok := (writeFile_of_not_isFolder v.not_isFolder_ledger (Ledger.encode
    (v.ledger.insert path (Stat.touch (v.ledger.get? path) now)))).1
  split
  · next heq =>
    rw [heq] at hok
    contradiction
  · next heq => rw [heq]

/-- The ledger that is read once some bytes stand in a file. -/
def ledgerBehind (v : Vault) (path : Text) (bytes : Bytes) : Ledger :=
  if v.IsLedger path then Ledger.decode bytes else v.ledger

/-- The times that a write of some bytes gives to a note. -/
def statBehind (v : Vault) (path : Text) (bytes : Bytes) (now : Int) : Stat :=
  Stat.touch ((v.ledgerBehind path bytes).get? path) now

/-- The ledger that a write of some bytes leaves. -/
def recorded (v : Vault) (path : Text) (bytes : Bytes) (now : Int) : Ledger :=
  (v.ledgerBehind path bytes).insert path (v.statBehind path bytes now)

theorem statBehind_eq (h : ¬v.IsLedger path) (bytes : Bytes) (now : Int) :
    v.statBehind path bytes now = Stat.touch (v.ledger.get? path) now := by
  rw [statBehind, ledgerBehind, if_neg h]

theorem recorded_eq (h : ¬v.IsLedger path) (bytes : Bytes) (now : Int) :
    v.recorded path bytes now = v.ledger.insert path (Stat.touch (v.ledger.get? path) now) := by
  rw [recorded, statBehind_eq h, ledgerBehind, if_neg h]

theorem fits_ledgerBehind (v : Vault) (path : Text) (bytes : Bytes) :
    (v.ledgerBehind path bytes).Fits := by
  unfold ledgerBehind
  split_ifs
  · exact Ledger.fits_decode bytes
  · exact v.fits_ledger

theorem fits_recorded (h : isSigned64 now = true) (v : Vault) (path : Text) (bytes : Bytes) :
    (v.recorded path bytes now).Fits := by
  have hl := v.fits_ledgerBehind path bytes
  exact hl.insert path (Stat.Fits.touch (fun s hs => hl.get? hs) h)

/-- Whether a vault is what is left of another one by a write of some bytes into a file of it. -/
structure Wrote (v : Vault) (path : Text) (bytes : Bytes) (now : Int) (w : Vault) : Prop where
  root : w.root = v.root
  file : ∀ q, w.file? q = if v.IsLedger q then some (Ledger.encode (v.recorded path bytes now))
    else if v.address q = v.address path then some bytes else v.file? q

/-- The written file may be the one of the ledger, which is then read from the new bytes. -/
theorem ledger_writeFile (h : Address.isFolder (v.address path) = false) (bytes : Bytes) :
    (v.writeFile path bytes).2.ledger = v.ledgerBehind path bytes := by
  obtain ⟨-, -, hfile⟩ := writeFile_of_not_isFolder h bytes
  rw [ledger_eq, hfile, ledgerBehind]
  by_cases hpath : v.IsLedger path
  · rw [if_pos hpath, if_pos hpath.symm]
    rfl
  · rw [if_neg hpath, if_neg (Ne.symm hpath)]
    rfl

theorem wrote_touch (h : Address.isFolder (v.address path) = false) (bytes : Bytes) (now : Int) :
    ((v.writeFile path bytes).2.touch path now).1 = .ok (v.statBehind path bytes now) ∧
      v.Wrote path bytes now ((v.writeFile path bytes).2.touch path now).2 := by
  have hledger := ledger_writeFile h bytes
  obtain ⟨-, hroot, hfile⟩ := writeFile_of_not_isFolder h bytes
  generalize hu : (v.writeFile path bytes).2 = u at hroot hfile hledger
  have hstat : (u.touch path now).1 = .ok (v.statBehind path bytes now) := by
    rw [touch_eq, statBehind, hledger]
  have hrecorded : (u.touch path now).2 =
      (u.writeFile ledgerPath (Ledger.encode (v.recorded path bytes now))).2 := by
    rw [touch_eq, recorded, statBehind, hledger]
  obtain ⟨-, hroot', hfile'⟩ := writeFile_of_not_isFolder u.not_isFolder_ledger
    (Ledger.encode (v.recorded path bytes now))
  refine ⟨hstat, ?_, fun q => ?_⟩
  · rw [hrecorded, hroot', hroot]
  · rw [hrecorded, hfile', address_congr hroot, address_congr hroot, hfile]
    rfl

/-- What writing a note does: it is refused, and all files stay, or the note is written. -/
theorem writeNote_cases (v : Vault) (path markdown : Text) (now : Int) :
    (∃ f w, v.writeNote path markdown now = (.error f, w) ∧ v.SameFiles w ∧
      (Path.ofNote path = [] ∨ Address.isFolder (v.address (Path.ofNote path)) = true)) ∨
    ∃ w, v.writeNote path markdown now =
        (.ok (Note.ofMarkdown (Path.ofNote path) markdown
          (v.statBehind (Path.ofNote path) (Utf8.encode markdown) now)), w) ∧
      Path.ofNote path ≠ [] ∧ v.Wrote (Path.ofNote path) (Utf8.encode markdown) now w := by
  unfold writeNote
  dsimp only
  generalize Path.ofNote path = p
  by_cases hempty : p = []
  · rw [if_pos (List.isEmpty_iff.mpr hempty)]
    exact .inl ⟨.notePathEmpty, v, rfl, .refl v, .inl hempty⟩
  rw [if_neg (mt List.isEmpty_iff.mp hempty)]
  cases hfolder : Address.isFolder (v.address p) with
  | true =>
    obtain ⟨hfails, hsame⟩ := writeFile_of_isFolder hfolder (Utf8.encode markdown)
    have hwrite : v.writeFile p (Utf8.encode markdown) =
        (.error .writeFailed, (v.writeFile p (Utf8.encode markdown)).2) := Prod.ext hfails rfl
    rw [hwrite]
    exact .inl ⟨.writeFailed, _, rfl, hsame, .inr rfl⟩
  | false =>
    obtain ⟨hok, -⟩ := writeFile_of_not_isFolder hfolder (Utf8.encode markdown)
    obtain ⟨hstat, hwrote⟩ := wrote_touch hfolder (Utf8.encode markdown) now
    have hwrite : v.writeFile p (Utf8.encode markdown) =
        (.ok (), (v.writeFile p (Utf8.encode markdown)).2) := Prod.ext hok rfl
    refine .inr ⟨_, ?_, hempty, hwrote⟩
    rw [hwrite]
    dsimp only
    rw [hstat]
    rfl

theorem writeNote_of_file? (hpath : Path.ofNote path ≠ [])
    (h : v.file? (Path.ofNote path) = some bytes) (markdown : Text) (now : Int) :
    ∃ w, v.writeNote path markdown now =
        (.ok (Note.ofMarkdown (Path.ofNote path) markdown
          (v.statBehind (Path.ofNote path) (Utf8.encode markdown) now)), w) ∧
      v.Wrote (Path.ofNote path) (Utf8.encode markdown) now w := by
  rcases v.writeNote_cases path markdown now with ⟨f, w, -, -, hempty | hfolder⟩ | ⟨w, hw, -, hwrote⟩
  · exact absurd hempty hpath
  · rw [not_isFolder_of_file? h] at hfolder
    contradiction
  · exact ⟨w, hw, hwrote⟩

/-- What changing the metadata of a note does: it fails if the note cannot be read, else the note
is written with the new metadata in front of its old body. -/
theorem writeFrontmatter_cases {α : Type} (v : Vault) (path : Text)
    (change : Frontmatter → α × Frontmatter) (now : Int) :
    (∃ f, v.writeFrontmatter path change now = (.error f, v) ∧
      v.readRaw (Path.ofNote path) = .error f) ∨
    ∃ markdown text w, v.readRaw (Path.ofNote path) = .ok markdown ∧
      text = Frontmatter.render (change (.ofMarkdown markdown)).2 (Fence.split markdown).2 ∧
      v.writeFrontmatter path change now =
        (.ok ((change (.ofMarkdown markdown)).1, Note.ofMarkdown (Path.ofNote (Path.ofNote path)) text
          (v.statBehind (Path.ofNote (Path.ofNote path)) (Utf8.encode text) now)), w) ∧
      v.Wrote (Path.ofNote (Path.ofNote path)) (Utf8.encode text) now w := by
  unfold writeFrontmatter
  dsimp only
  cases hread : v.readRaw (Path.ofNote path) with
  | error f => exact .inl ⟨f, rfl, rfl⟩
  | ok markdown =>
    obtain ⟨hne, bytes, hbytes, -⟩ := readRaw_eq_ok_iff.mp hread
    obtain ⟨w, hw, hwrote⟩ := writeNote_of_file? hne hbytes
      (Frontmatter.render (change (.ofMarkdown markdown)).2 (Fence.split markdown).2) now
    refine .inr ⟨markdown, _, w, rfl, rfl, ?_, hwrote⟩
    dsimp only
    rw [hw]
    rfl

namespace Wrote

variable (h : v.Wrote path bytes now w)

include h

theorem ledger (hnow : isSigned64 now = true) : w.ledger = v.recorded path bytes now := by
  have hself : v.IsLedger ledgerPath := rfl
  rw [ledger_eq, h.file, if_pos hself, Option.map_some, Option.getD_some,
    Ledger.decode_encode (fits_recorded hnow v path bytes)]

theorem get?_ledger (hnow : isSigned64 now = true) (hpath : ¬v.IsLedger path) (q : Text) :
    w.ledger.get? q = if q = path then some (Stat.touch (v.ledger.get? path) now)
      else v.ledger.get? q := by
  rw [h.ledger hnow, recorded_eq hpath, Index.get?_insert]

theorem file_self (hpath : ¬v.IsLedger path) : w.file? path = some bytes := by
  rw [h.file, if_neg hpath, if_pos rfl]

theorem isSome_file? (hq : (v.file? q).isSome = true) : (w.file? q).isSome = true := by
  rw [h.file]
  split_ifs
  · rfl
  · rfl
  · exact hq

end Wrote

theorem Wrote.readRaw (h : v.Wrote (Path.ofNote p) (Utf8.encode markdown) now w)
    (hp : ¬v.IsLedger (Path.ofNote p)) (hne : Path.ofNote p ≠ []) :
    w.readRaw p = .ok markdown :=
  readRaw_eq_ok_iff.mpr ⟨hne, _, h.file_self hp, Utf8.decode_encode markdown⟩

end Vault

end NoteVault
