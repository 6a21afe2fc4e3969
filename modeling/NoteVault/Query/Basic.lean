import NoteVault.Query.Request
import NoteVault.Query.Row
import NoteVault.Query.Snapshot
import NoteVault.Query.Warnings
import NoteVault.Settings
import NoteVault.Vault.Base

/-! Queries: the notes of a vault that pass the filters of a base, sorted, as pages of rows. -/

namespace NoteVault

/-- Where the rows of an answer come from. -/
inductive Source where
  | snapshot
  | vault
  deriving DecidableEq, Repr

structure Response where
  total : Nat
  page : Nat
  limit : Nat
  view : Option Text
  rows : List Row
  evaluate : Bool
  source : Source
  warnings : List Text

namespace Source

def word : Source → Text
  | .snapshot => "engine"
  | .vault => "fallback"

end Source

namespace Response

def toValue (r : Response) : Value :=
  .record ([("total".toList, .int r.total), ("page".toList, .int r.page),
      ("limit".toList, .int r.limit)] ++
    Decode.writeOptional "view" (r.view.map .text) ++
    [("rows".toList, .list (r.rows.map Row.toValue)), ("evaluate".toList, .bool r.evaluate),
      ("source".toList, .text r.source.word), ("warnings".toList, .list (r.warnings.map .text))])

end Response

namespace Query

/-- An integer as 64 bits with a sign hold it. -/
def wrapped (n : Nat) : Int := Int.bmod n 0x10000000000000000

/-- A number that is at least 1 and at most `top`; the bound is compared as 64 bits hold it. -/
def clamp (n : Int) (top : Nat) : Nat :=
  if n < 1 then 1 else if wrapped top < n then top else n.toNat

/-- A natural number, or the largest integer of 64 bits if it is larger. -/
def capped (n : Nat) : Int := min n 0x7fffffffffffffff

/-- How many rows a page has: as asked, as the view says, or as the settings say. -/
def limit (s : Settings) (view : Option View) (r : Request) : Nat :=
  clamp ((r.limit.or ((view.bind View.limit).map capped)).getD (capped s.defaultLimit)) s.maxLimit

def pageNumber (s : Settings) (r : Request) : Nat := clamp (r.page.getD 1) s.maxPage

/-- The filter that a note has to pass: those of the base, of the view and of the request. -/
def filter (s : Schema) (view : Option View) (r : Request) : Option Filter :=
  Filter.combine [s.filter, view.bind View.filter, r.filter]

/-- The sort keys of a request, or those of the view if it has none. -/
def sortKeys (view : Option View) (r : Request) : List SortKey :=
  match r.sort with
  | some (k :: ks) => (k :: ks).map SortKey.ofInput
  | _ => (view.map fun w => w.order.map SortKey.ofText).getD []

/-- What a query selects from a vault, before it is cut into pages. -/
structure Selection where
  schema : Schema
  view : Option View
  /-- The notes that pass, in order. -/
  notes : List Note
  warnings : List Text

def select [Sorting.Sorter] (v : Vault) (base : Text) (r : Request) : Except Fault Selection := do
  let schema ← v.getSchema (Path.ofBase base)
  let view := schema.view? r.view
  let passes (n : Note) := Filter.evaluate n schema.formulas (filter schema view r)
  let outcomes := (← v.listNotes).map fun n => (n, passes n)
  let passing := (outcomes.filter fun o => o.2.ok).map Prod.fst
  match Sorting.notes schema.formulas (sortKeys view r) passing with
  | none => throw .unsorted
  | some notes =>
    return { schema, view, notes, warnings := outcomes.flatMap fun o => o.2.warnings }

/-- The rows of all selected notes. -/
def Selection.rows (s : Selection) (evaluate : Bool) : List Row :=
  s.notes.map fun n => Row.build n s.schema evaluate

/-- The answer with a page of rows. -/
def respond (settings : Settings) (r : Request) (s : Selection) (source : Source) (total : Nat)
    (rows : List Row) : Response :=
  let limit := limit settings s.view r
  let number := pageNumber settings r
  { total, limit, source
    page := number
    view := s.view.map View.name
    rows := page rows number limit
    evaluate := r.evaluate
    warnings := Warnings.report settings.maxWarnings s.warnings }

/--
Answers a query. An evaluated one is answered from the snapshot of its base if the settings say so;
a base without a snapshot gets one of all rows now. What is selected is sorted in any case.
-/
def run [Sorting.Sorter] (v : Vault) (cache : Snapshots) (settings : Settings) (base : Text)
    (r : Request) (now : Int) : Except Fault Response × Snapshots :=
  match select v base r with
  | .error f => (.error f, cache)
  | .ok s =>
    if r.evaluate && settings.liveEngine then
      let key := Path.ofBase base
      match Snapshots.find? cache key with
      | some kept => (.ok (respond settings r s .snapshot kept.total kept.rows), cache)
      | none =>
        let rows := s.rows true
        (.ok (respond settings r s .snapshot rows.length rows), Snapshots.push cache key rows now)
    else
      let rows := s.rows r.evaluate
      (.ok (respond settings r s .vault rows.length rows), cache)

/-- The outcome of a filter for one note, with the formulas of a base if one is named. -/
def checkNote (v : Vault) (path : Text) (f : Option Filter) (base : Option Text) :
    Except Fault Outcome := do
  let n ← v.getNote path
  let formulas ← match base with
    | some base => (v.getSchema base).map Schema.formulas
    | none => pure .empty
  return Filter.evaluate n formulas f

end Query

end NoteVault
