import NoteVault.Proofs.Vault.Written

/-! Writes of different notes. A write leaves every other note as it was, and two writes can be done in
either order. -/

namespace NoteVault.Vault

open Address

variable {v w : Vault} {p q : Text} {bytes bytes' : Bytes} {now now' : Int}

/-- Whether a path is the one under which its note is listed, and not that of the ledger. -/
structure IsNotePath (p : Text) : Prop where
  normal : Path.IsNormal p
  apart : p ≠ ledgerPath

instance (p : Text) : Decidable (IsNotePath p) :=
  decidable_of_iff (Path.IsNormal p ∧ p ≠ ledgerPath)
    ⟨fun h => ⟨h.1, h.2⟩, fun h => ⟨h.normal, h.apart⟩⟩

/-- Whether two vaults have the same note at a path, with the same times. -/
structure SameNote (v w : Vault) (p : Text) : Prop where
  root : w.root = v.root
  file : w.file? p = v.file? p
  times : w.ledger.get? p = v.ledger.get? p

theorem IsNotePath.not_isFolder (hp : IsNotePath p) (v : Vault) :
    isFolder (v.address p) = false := v.not_isFolder_of_isNormal hp.normal

theorem IsNotePath.not_isLedger (hp : IsNotePath p) (v : Vault) : ¬v.IsLedger p :=
  not_isLedger_of_isNormal hp.normal hp.apart

theorem IsNotePath.address_ne (hp : IsNotePath p) (hq : IsNotePath q) (hne : p ≠ q) (v : Vault) :
    v.address p ≠ v.address q :=
  fun h => hne (eq_of_address_eq hp.normal hq.normal h)

theorem readRaw_of_isNormal (hp : Path.IsNormal p) (v : Vault) :
    v.readRaw p = match v.file? p with
      | some bytes => .ok (Utf8.decode bytes)
      | none => .error (.noteMissing p) := by
  have hfile : isFolder (Address.ofPath (v.full p)) = false := v.not_isFolder_of_isNormal hp
  have hhas : v.store.has (v.full p) = (v.file? p).isSome := by
    simp [Store.has, file?, Store.read?, hfile, Index.has]
  unfold readRaw
  simp only [hp.stable, hhas]
  cases hread : v.file? p with
  | none => simp
  | some bytes =>
    have hstore : v.store.read? (v.full p) = some bytes := hread
    simp [hp.ne_nil, hstore]

theorem SameNote.readRaw (h : v.SameNote w p) (hp : Path.IsNormal p) : w.readRaw p = v.readRaw p := by
  rw [readRaw_of_isNormal hp, readRaw_of_isNormal hp, h.file]

theorem SameNote.getNote (h : v.SameNote w p) (hp : Path.IsNormal p) : w.getNote p = v.getNote p := by
  unfold Vault.getNote
  simp only [hp.stable, h.readRaw hp, Ledger.stat, h.times]

section Writes

variable (hnow : isSigned64 now = true) (hp : IsNotePath p)

include hnow hp

theorem ledger_written (v : Vault) (bytes : Bytes) :
    (v.written p bytes now).ledger =
      v.ledger.insert p (Stat.touch (v.ledger.get? p) now) := by
  have hwrote := wrote_written (hp.not_isFolder v) bytes now
  rw [hwrote.ledger hnow, recorded_eq (hp.not_isLedger v)]

theorem sameNote_written (hq : IsNotePath q) (hne : p ≠ q) (v : Vault) (bytes : Bytes) :
    v.SameNote (v.written p bytes now) q := by
  have hwrote := wrote_written (hp.not_isFolder v) bytes now
  have haddress := hq.address_ne hp hne.symm v
  constructor
  · exact hwrote.root
  · rw [hwrote.file, if_neg (hq.not_isLedger v), if_neg haddress]
  · rw [ledger_written hnow hp, Index.get?_insert, if_neg hne.symm]

theorem recorded_written (hq : IsNotePath q) (hne : p ≠ q) (v : Vault) (bytes bytes' : Bytes) :
    (v.written p bytes now).recorded q bytes' now' =
      (v.ledger.insert p (Stat.touch (v.ledger.get? p) now)).insert q
        (Stat.touch (v.ledger.get? q) now') := by
  have hsame := sameNote_written hnow hp hq hne v bytes
  rw [recorded_eq (hq.not_isLedger _), hsame.times, ledger_written hnow hp]

end Writes

theorem files_written_written (hp : IsNotePath p) (hq : IsNotePath q) (v : Vault)
    (bytes bytes' : Bytes) (now now' : Int) :
    ((v.written p bytes now).written q bytes' now').store.files =
      ((v.store.files.insert (v.address p) bytes).insert (v.address q) bytes').insert
        (v.address ledgerPath) (Ledger.encode ((v.written p bytes now).recorded q bytes' now')) := by
  have haddress : ∀ r, (v.written p bytes now).address r = v.address r :=
    address_congr (root_written (hp.not_isFolder v) bytes now)
  rw [files_written (hq.not_isFolder _), haddress, haddress, files_written (hp.not_isFolder v)]
  apply Index.ext_get?
  intro key
  simp only [Index.get?_insert]
  by_cases hkey : key = v.address ledgerPath <;> simp [hkey]

/-- Once a note is written the folder of the ledger is there. -/
theorem folders_written_written (hp : IsNotePath p) {old old' : Bytes}
    (hold : v.file? p = some old) (hold' : (v.written p bytes now).file? q = some old') :
    ((v.written p bytes now).written q bytes' now').store.folders =
      (v.store.ensureParent (v.full ledgerPath)).folders := by
  have hwrote := wrote_written (hp.not_isFolder v) bytes now
  have hledger : (v.written p bytes now).file? ledgerPath =
      some (Ledger.encode (v.recorded p bytes now)) := by
    have hself : v.IsLedger ledgerPath := rfl
    rw [hwrote.file, if_pos hself]
  rw [folders_written hold', Store.ensureParent_of_read? hledger, folders_written hold]

/-- Two notes can be written in either order: files, folders and ledger are the same. -/
theorem written_comm (hnow : isSigned64 now = true) (hnow' : isSigned64 now' = true)
    (hp : IsNotePath p) (hq : IsNotePath q) (hne : p ≠ q) (hold : (v.file? p).isSome = true)
    (hold' : (v.file? q).isSome = true) (bytes bytes' : Bytes) :
    (v.written p bytes now).written q bytes' now' =
      (v.written q bytes' now').written p bytes now := by
  obtain ⟨old, hold⟩ := Option.isSome_iff_exists.mp hold
  obtain ⟨old', hold'⟩ := Option.isSome_iff_exists.mp hold'
  have hsame := sameNote_written hnow hp hq hne v bytes
  have hsame' := sameNote_written hnow' hq hp hne.symm v bytes'
  have haddress := hp.address_ne hq hne v
  apply Vault.ext
  · have hroot := (root_written (hq.not_isFolder _) bytes' now').trans hsame.root
    have hroot' := (root_written (hp.not_isFolder _) bytes now).trans hsame'.root
    exact hroot.trans hroot'.symm
  · rw [files_written_written hp hq, files_written_written hq hp, recorded_written hnow hp hq hne,
      recorded_written hnow' hq hp hne.symm, Index.insert_comm v.ledger hne,
      Index.insert_comm v.store.files haddress]
  · rw [folders_written_written hp hold (hsame.file.trans hold'),
      folders_written_written hq hold' (hsame'.file.trans hold)]

end NoteVault.Vault
