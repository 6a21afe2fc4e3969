import NoteVault.Fault
import NoteVault.Json.Parse
import NoteVault.Note.Path
import NoteVault.Number.Single
import NoteVault.Store.Basic
import NoteVault.Value.Decode

/-! Embeddings: vectors of numbers that stand for notes. -/

namespace NoteVault

structure Embedding where
  path : Text
  vector : List Float32
  text : Option Text

namespace Embedding

/-- The value of a number of 32 bits; one that is not finite is written as null. -/
def numberValue (x : Float32) : Value :=
  match Single.toBinary64? x with
  | some y => .number (.real y)
  | none => .null

def number? : Value → Option Float32
  | .number n => some n.toSingle
  | _ => none

open Decode

def toValue (e : Embedding) : Value :=
  .record ([("path".toList, .text e.path), ("vector".toList, .list (e.vector.map numberValue))] ++
    writeOptional "text" (e.text.map .text))

def ofValue? (v : Value) : Option Embedding := do
  let fs ← fields? v
  return {
    path := ← required ["path"] text? fs
    vector := ← required ["vector"] (list? number?) fs
    text := ← optional ["text"] text? fs }

/-- A component of a vector in a document, which is read as a double first. -/
def component? : Value → Option Float32
  | .number n => some n.toBinary64.toSingle
  | _ => none

def vector? (v : Value) : Option (List Float32) := list? component? v

/-- The embedding that an entry of a list writes. -/
def ofEntry? (v : Value) : Option Embedding := do
  let path ← (v.get? "path").bind Value.text?
  let vector ← ((v.get? "vector").or (v.get? "embedding")).bind vector?
  return ⟨Path.ofNote path, vector, (v.get? "text").bind Value.text?⟩

/-- The embedding that a field of a record writes. -/
def ofField? (f : Text × Value) : Option Embedding :=
  (vector? f.2).map fun vector => ⟨Path.ofNote f.1, vector, none⟩

/-- The embeddings of a document: a list of entries, or a record of vectors under their paths.
What cannot be read is left out. -/
def ofDocument : Value → List Embedding
  | .list vs => vs.filterMap ofEntry?
  | .record fs => fs.filterMap ofField?
  | _ => []

/-- The embeddings in a file of a store. -/
def load (s : Store) (path : Text) : Except Fault (List Embedding) :=
  if !s.has path then .error (.vectorFileMissing path)
  else match s.read? path with
    | none => .error .vectorFileUnreadable
    | some bytes =>
      match (Json.ofBytes? bytes).bind Json.Node.value? with
      | some v => .ok (ofDocument v)
      | none => .error .vectorsInvalid

end Embedding

end NoteVault
