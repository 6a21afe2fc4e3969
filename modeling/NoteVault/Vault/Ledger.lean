import NoteVault.Index
import NoteVault.Json.Parse
import NoteVault.Json.Print
import NoteVault.Note.Basic
import NoteVault.Value.Decode

/-! The ledger of a vault: when each note was created and last changed. -/

namespace NoteVault

/-- The times of notes under their paths. -/
abbrev Ledger := Index Stat

namespace Stat

open Decode

def toValue (s : Stat) : Value := .record [("ctime", .int s.ctime), ("mtime", .int s.mtime)]

def ofNode? (n : Json.Node) : Option Stat := do
  let fs ← n.fields? ["ctime", "mtime"]
  return {
    ctime := ← required ["ctime"] int? fs
    mtime := ← required ["mtime"] int? fs }

/-- The time after a time of 64 bits; the first one follows the last. -/
def next (time : Int) : Int := if time = 0x7fffffffffffffff then -0x8000000000000000 else time + 1

/-- The times of a note that is written now. The time of its last change always grows. -/
def touch (before : Option Stat) (now : Int) : Stat :=
  match before with
  | some s => { s with mtime := if now ≤ s.mtime then next s.mtime else now }
  | none => ⟨now, now⟩

end Stat

namespace Ledger

def toValue (l : Ledger) : Value :=
  .record [("files", .record (l.entries.map fun (path, s) => (path, s.toValue)))]

def entry? (m : Text × Json.Node) : Option (Text × Stat) :=
  (Stat.ofNode? m.2).map fun s => (m.1, s)

def entries? : Json.Node → Option Ledger
  | .record ms => ((ms.mapM Json.Node.named?).bind fun ms => ms.mapM entry?).map Index.ofList
  | _ => none

def ofNode? (n : Json.Node) : Option Ledger :=
  match n.members? ["files"] with
  | some [] => some .empty
  | some [(_, files)] => entries? files
  | _ => none

/-- The bytes of the file that keeps a ledger. -/
def encode (l : Ledger) : Bytes := Utf8.encode (Json.pretty l.toValue)

/-- The ledger that some bytes keep; bytes that cannot be read keep an empty one. -/
def decode (bs : Bytes) : Ledger :=
  ((Json.ofBytes? bs).bind ofNode?).getD .empty

/-- The times of a note; of one that was never written they are zero. -/
def stat (l : Ledger) (path : Text) : Stat := (l.get? path).getD {}

end Ledger

end NoteVault
