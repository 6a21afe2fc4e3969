import NoteVault.Query.Sort

/-! Requests for queries. -/

namespace NoteVault

structure Request where
  view : Option Text := none
  filter : Option Filter := none
  sort : Option (List SortInput) := none
  limit : Option Int := none
  page : Option Int := none
  evaluate : Bool := false
  deriving Repr

namespace Request

open Decode

def toValue (r : Request) : Value :=
  .record [("view", (r.view.map .text).getD .null),
    ("filter", (r.filter.map Filter.toValue).getD .null),
    ("sort", (r.sort.map fun ks => .list (ks.map SortInput.toValue)).getD .null),
    ("limit", (r.limit.map .int).getD .null), ("page", (r.page.map .int).getD .null),
    ("evaluate", .bool r.evaluate)]

def ofValue? (v : Value) : Option Request := do
  let fs ← fields? v
  return {
    view := ← optional ["view"] text? fs
    filter := ← optional ["filter"] (fun v => some (Filter.ofValue v)) fs
    sort := ← optional ["sort"] (list? SortInput.ofValue?) fs
    limit := ← optional ["limit"] int? fs
    page := ← optional ["page"] int? fs
    evaluate := ← withDefault ["evaluate"] false bool? fs }

end Request

end NoteVault
