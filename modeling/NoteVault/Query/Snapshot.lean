import NoteVault.Index
import NoteVault.Note.Path
import NoteVault.Query.Row

/-! Snapshots: rows of a base that stay as they are until they are replaced. -/

namespace NoteVault

structure Snapshot where
  timestamp : Int
  rows : List Row
  total : Nat
  deriving Repr

namespace Snapshot

/-- A snapshot of all rows, taken now. -/
def ofRows (rows : List Row) (now : Int) : Snapshot := ⟨now, rows, rows.length⟩

def toValue (s : Snapshot) : Value :=
  .record [("timestamp", .int s.timestamp), ("rows", .list (s.rows.map Row.toValue)),
    ("total", .int s.total)]

open Decode

def ofValue? (v : Value) : Option Snapshot := do
  let fs ← fields? v
  return {
    timestamp := ← required ["timestamp"] int? fs
    rows := ← required ["rows"] (list? Row.ofValue?) fs
    total := ← required ["total"] nat? fs }

end Snapshot

/-- Snapshots under the keys of their bases. -/
abbrev Snapshots := Index Snapshot

namespace Snapshots

/-- The snapshot of a base, however its path is written. -/
def find? (c : Snapshots) (base : Text) : Option Snapshot := c.get? (Path.ofBase base)

def put (c : Snapshots) (base : Text) (s : Snapshot) : Snapshots := c.insert (Path.ofBase base) s

/-- Replaces the snapshot of a base by one of some rows. -/
def push (c : Snapshots) (base : Text) (rows : List Row) (now : Int) : Snapshots :=
  put c base (.ofRows rows now)

end Snapshots

end NoteVault
