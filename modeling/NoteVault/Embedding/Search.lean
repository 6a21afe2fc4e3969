import NoteVault.Embedding.Basic
import NoteVault.Settings
import NoteVault.Sorting

/-! Search for the embeddings nearest to a vector. -/

namespace NoteVault

namespace Embedding

/-- The sum of products, taken from left to right. -/
def dot (a b : List Float32) : Float32 := (a.zip b).foldl (fun sum (x, y) => sum + x * y) 0

/-- The cosine of the angle between two vectors of one length, neither of which may be zero. -/
def cosine? (a b : List Float32) : Option Float32 :=
  if a.isEmpty || a.length != b.length then none
  else
    let (aa, bb) := (dot a a, dot b b)
    if aa == 0 || bb == 0 then none else some (dot a b / (aa.sqrt * bb.sqrt))

end Embedding

structure SearchOptions where
  /-- How many hits there are at most. -/
  topK : Nat := 10
  minScore : Option Float32 := none
  excludePath : Option Text := none

structure Hit where
  path : Text
  score : Float32
  text : Option Text

namespace SearchOptions

open Decode

def ofValue? (v : Value) : Option SearchOptions := do
  let fs ← fields? v
  return {
    topK := ← withDefault ["top_k"] 10 nat? fs
    minScore := ← optional ["min_score"] Embedding.number? fs
    excludePath := ← optional ["exclude_path"] text? fs }

/-- Whether a score is not below the least one that is wanted. -/
def admits (o : SearchOptions) (score : Float32) : Bool :=
  match o.minScore with
  | some least => !(score < least)
  | none => true

/-- Whether the note at a path is left out. -/
def excludes (o : SearchOptions) (path : Text) : Bool :=
  match o.excludePath with
  | some p => path == Path.ofNote p
  | none => false

end SearchOptions

namespace Hit

def toValue (h : Hit) : Value :=
  .record ([("path".toList, .text h.path), ("score".toList, Embedding.numberValue h.score)] ++
    Decode.writeOptional "text" (h.text.map .text))

/-- Whether a hit stands in front of another: by a higher score, or by its path. A score that is
not a number counts as equal to every score. -/
def before (a b : Hit) : Bool :=
  if b.score < a.score then true
  else if a.score < b.score then false
  else Text.order a.path b.path == .lt

end Hit

namespace Embedding

/-- The hit that an embedding is, if it is not left out. -/
def hit? (query : List Float32) (o : SearchOptions) (e : Embedding) : Option Hit :=
  if o.excludes e.path then none
  else (cosine? e.vector query).bind fun score =>
    if o.admits score then some ⟨e.path, score, e.text⟩ else none

/-- The embeddings nearest to a vector, the nearest first. -/
def search [Sorting.Sorter] (es : List Embedding) (query : List Float32) (o : SearchOptions) :
    Except Fault (List Hit) :=
  match Sorting.Sorter.sort Hit.before (es.filterMap (hit? query o)) with
  | some hits => .ok (hits.take o.topK)
  | none => .error .unsorted

/-- The embeddings nearest to that of a note, which is left out itself. -/
def searchByNote [Sorting.Sorter] (es : List Embedding) (path : Text) (o : SearchOptions) :
    Except Fault (List Hit) :=
  let path := Path.ofNote path
  match es.find? fun e => e.path == path with
  | some e => search es e.vector { o with excludePath := some path }
  | none => .error (.vectorMissing path)

end Embedding

/-- What makes vectors of texts; it may fail. -/
structure Provider where
  name : Text
  embed : Text → Option (List Float32)

namespace Provider

/-- Adds a provider, or puts it into the place of one of its name. -/
def register (p : Provider) : List Provider → List Provider
  | [] => [p]
  | q :: qs => if q.name = p.name then p :: qs else q :: register p qs

/-- The provider of a name, or the first one. -/
def select? (ps : List Provider) (name : Option Text) : Option Provider :=
  (name.bind fun name => ps.find? fun p => p.name == name).or ps.head?

end Provider

/-- The embeddings nearest to that of a text. -/
def Embedding.searchByText [Sorting.Sorter] (ps : List Provider) (settings : Settings)
    (es : List Embedding) (text : Text) (o : SearchOptions) : Except Fault (List Hit) :=
  if Text.isBlankText text then .error .queryTextEmpty
  else match Provider.select? ps settings.embeddingProvider with
    | none => .error .providerMissing
    | some p =>
      match p.embed text with
      | none => .error (.providerFailed p.name)
      | some query => search es query o

end NoteVault
