import NoteVault.Fault
import NoteVault.Store.Medium
import NoteVault.Vault.Ledger

/-! Vaults: a folder of a store with notes in it, and a ledger of their times. -/

namespace NoteVault

structure Vault where
  /-- The folder of the vault. -/
  root : Text
  store : Store

namespace Vault

/-- The path in the store of a path in the vault. -/
def full (v : Vault) (path : Text) : Text := Path.join v.root path

/-- Where the ledger is kept. -/
def ledgerPath : Text := Path.reserved ++ "/stat.json".toList

def ledger (v : Vault) : Ledger :=
  ((v.store.read? (v.full ledgerPath)).map Ledger.decode).getD .empty

/-- Writes a file of the vault and the folder that it lies in. If the file cannot be written, the folder
stays. -/
def writeFile [Medium] (v : Vault) (path : Text) (bytes : Bytes) : Except Fault Unit × Vault :=
  match v.store.makeParent (v.full path) with
  | (none, store) => (.error .folderFailed, { v with store })
  | (some (), made) =>
    match Medium.unwritten? made (v.full path) bytes with
    | some store => (.error .writeFailed, { v with store })
    | none =>
      match made.write? (v.full path) bytes with
      | some store => (.ok (), { v with store })
      | none => (.error .writeFailed, { v with store := made })

/-- The ledger, if the file that keeps it can be read; without a file it is empty. -/
def readLedger? [Medium] (v : Vault) : Option Ledger :=
  let p := v.full ledgerPath
  if Medium.failsToLook v.store p then none
  else if !v.store.has p then some .empty
  else if Medium.failsToRead v.store p then none
  else (v.store.read? p).map Ledger.decode

/-- Records that a note is written now. -/
def touch [Medium] (v : Vault) (path : Text) (now : Int) : Except Fault Stat × Vault :=
  match v.readLedger? with
  | none => (.error .ledgerFailed, v)
  | some times =>
    let stat := Stat.touch (times.get? path) now
    match v.writeFile ledgerPath (Ledger.encode (times.insert path stat)) with
    | (.error _, v) => (.error .ledgerFailed, v)
    | (.ok (), v) => (.ok stat, v)

/-- The folder of the vault as it is listed. -/
def folder (v : Vault) : Text :=
  let root := Path.trimSlashes v.root
  if root.isEmpty then ['/'] else root ++ ['/']

/-- The paths with an extension outside of the reserved folder, in ascending order. -/
def listPaths (v : Vault) (ext : Text) : List Text :=
  let paths := (v.store.filesWithin v.folder).map (Path.relative v.root)
  let kept := paths.filter fun p => !Path.isReserved p && Path.hasExtension ext p
  (kept.mergeSort fun a b => Text.order a b != .gt).eraseReps

/-- The markdown text of a note. -/
def readRaw (v : Vault) (path : Text) : Except Fault Text :=
  let path := Path.ofNote path
  if path.isEmpty || !v.store.has (v.full path) then .error (.noteMissing path)
  else match v.store.read? (v.full path) with
    | some bytes => .ok (Utf8.decode bytes)
    | none => .error .noteUnreadable

def getNote (v : Vault) (path : Text) : Except Fault Note := do
  let path := Path.ofNote path
  let markdown ← v.readRaw path
  return Note.ofMarkdown path markdown (Ledger.stat v.ledger path)

/-- A note as the list of notes holds it. -/
def listedNote (v : Vault) (times : Ledger) (path : Text) : Except Fault Note :=
  match v.store.read? (v.full path) with
  | some bytes => .ok (Note.ofMarkdown path (Utf8.decode bytes) (times.stat path))
  | none => .error (.listedFileMissing path)

/-- The notes of a vault in the order of their paths. -/
def listNotes (v : Vault) : Except Fault (List Note) :=
  let times := v.ledger
  (v.listPaths "md").mapM (v.listedNote times)

/-- Creates or replaces a note. If its times cannot be recorded, it stays written. -/
def writeNote [Medium] (v : Vault) (path markdown : Text) (now : Int) : Except Fault Note × Vault :=
  let path := Path.ofNote path
  if path.isEmpty then (.error .notePathEmpty, v)
  else match v.writeFile path (Utf8.encode markdown) with
    | (.error f, v) => (.error f, v)
    | (.ok (), v) =>
      let (stat, v) := v.touch path now
      (stat.map (Note.ofMarkdown path markdown), v)

/-- Puts what a function makes of the metadata of a note into its place; the body stays. -/
def writeFrontmatter {α : Type} (v : Vault) (path : Text) (change : Frontmatter → α × Frontmatter)
    (now : Int) : Except Fault (α × Note) × Vault :=
  let path := Path.ofNote path
  match v.readRaw path with
  | .error f => (.error f, v)
  | .ok markdown =>
    let (a, m) := change (.ofMarkdown markdown)
    let (note, v) := v.writeNote path (Frontmatter.render m (Fence.split markdown).2) now
    (note.map fun n => (a, n), v)

end Vault

end NoteVault
