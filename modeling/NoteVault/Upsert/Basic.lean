import NoteVault.Note.Edit
import NoteVault.Vault.Basic

/-!
Upserts: changes of the metadata of one note. An upsert that expects a time of last change is
refused when the note has another one.
-/

namespace NoteVault

structure Upsert where
  file : Text
  set : Record Value
  unset : List Text
  /-- The time of last change that the note should have. -/
  expected : Option Int
  deriving Repr

namespace Upsert

open Decode

def toValue (o : Upsert) : Value :=
  .record ([("file".toList, .text o.file), ("set".toList, .record o.set.entries),
      ("unset".toList, .list (o.unset.map .text))] ++
    writeOptional "expected_mtime" (o.expected.map .int))

def ofValue? (v : Value) : Option Upsert := do
  let fs ← fields? v
  return {
    file := ← required ["file"] text? fs
    set := ← withDefault ["set"] .empty record? fs
    unset := ← withDefault ["unset"] [] (list? text?) fs
    expected := ← optional ["expected_mtime", "expectedMtime"] int? fs }

/-- The path of the note of an upsert; a name without a point gets the extension of notes. -/
def target (file : Text) : Except Fault Text :=
  let path := Path.ofNote file
  if path.isEmpty then .error .fileEmpty
  else .ok (if (Path.name path).contains '.' then path else path ++ ".md".toList)

/-- The target of an upsert whose keys are not blank and of which none is both set and unset. -/
def check (o : Upsert) : Except Fault Text := do
  let path ← target o.file
  if o.set.names.any Text.isBlankText || o.unset.any Text.isBlankText then throw .keyEmpty
  match o.set.names.find? o.unset.contains with
  | some key => throw (.setAndUnset key)
  | none => return path

/-- Whether a value is to be set that is not there. -/
def isNew (m : Frontmatter) (field : Text × Value) : Bool :=
  match m.get? field.1 with
  | some v => !v.same field.2
  | none => true

/-- The keys that an upsert changes: those it sets, then those it unsets. -/
def changed (o : Upsert) (m : Frontmatter) : List Text :=
  o.unset.foldl (fun done key => if m.has key && !done.contains key then done ++ [key] else done)
    ((o.set.entries.filter (isNew m)).map Prod.fst)

def edits (o : Upsert) : List Edit :=
  o.set.entries.map (fun (key, v) => .set key v) ++ o.unset.map .unset

/-- What an upsert is about to do. -/
structure Plan where
  path : Text
  mtime : Int
  changed : List Text
  deriving DecidableEq, Repr

/-- What an upsert has done. -/
structure Done where
  path : Text
  mtime : Int
  changed : List Text
  deriving DecidableEq, Repr

/-- The first phase of an upsert, which only reads. -/
def plan (o : Upsert) (v : Vault) : Except Fault Plan := do
  let path ← o.check
  let note ← v.getNote path
  match o.expected with
  | some expected =>
    if expected ≠ note.mtime then throw (.conflict path expected note.mtime)
  | none => pure ()
  return ⟨path, note.mtime, o.changed note.frontmatter⟩

/-- The second phase of an upsert, which writes if anything changes. -/
def commit (o : Upsert) (p : Plan) (v : Vault) (now : Int) : Except Fault Done × Vault :=
  if p.changed.isEmpty then (.ok ⟨p.path, p.mtime, []⟩, v)
  else
    let (written, v) := v.writeFrontmatter p.path (Edit.run o.edits) now
    (written.map fun (_, note) => ⟨p.path, note.mtime, p.changed⟩, v)

/-- Changes the metadata of a note. -/
def run (o : Upsert) (v : Vault) (now : Int) : Except Fault Done × Vault :=
  match o.plan v with
  | .error f => (.error f, v)
  | .ok p => o.commit p v now

end Upsert

end NoteVault
