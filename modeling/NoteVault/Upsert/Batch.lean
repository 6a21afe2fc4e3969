import NoteVault.Upsert.Basic

/-! Batches of upserts, run one after the other. -/

namespace NoteVault.Upsert

/-- What became of an upsert: the file that was asked for if it failed. -/
structure Result where
  file : Text
  outcome : Except Fault Done

namespace Result

def isOk (r : Result) : Bool := r.outcome.isOk

def of (o : Upsert) (outcome : Except Fault Done) : Result :=
  ⟨match outcome with
    | .ok d => d.path
    | .error _ => o.file, outcome⟩

def toValue (r : Result) : Value :=
  match r.outcome with
  | .ok d =>
    .record [("file", .text r.file), ("ok", .bool true), ("mtime", .int d.mtime),
      ("changed", .list (d.changed.map .text))]
  | .error f =>
    .record [("file", .text r.file), ("ok", .bool false), ("changed", .list []),
      ("error", .record [("code", .text f.code), ("message", .text f.message)])]

end Result

/--
Runs upserts, each at its time. After a failure the others are run only if the batch is to go on.
-/
def runAll (goOn : Bool) : List (Int × Upsert) → Vault → List Result × Vault
  | [], v => ([], v)
  | (now, o) :: os, v =>
    let (outcome, v) := o.run v now
    if outcome.isOk || goOn then
      let (rest, v) := runAll goOn os v
      (.of o outcome :: rest, v)
    else ([.of o outcome], v)

/-- Whether every upsert of a batch that was run succeeded. -/
def allOk (rs : List Result) : Bool := rs.all Result.isOk

end NoteVault.Upsert
