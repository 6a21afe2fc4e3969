import NoteVault.Base.Schema

/-! Rows: what a query shows of a note. -/

namespace NoteVault

structure Row where
  path : Text
  name : Text
  /-- The values of the properties of the base. -/
  props : Record Value
  /-- The values of its formulas, if they were asked for. -/
  computed : Option (Record Value)
  deriving Repr

namespace Row

/-- The value that a row shows for a reference; an undefined one is null. -/
def shown (n : Note) (fs : Formulas) (r : Text) : Value := (n.resolve fs r).getD .null

/-- The row of a note under a schema. -/
def build (n : Note) (s : Schema) (evaluate : Bool) : Row :=
  { path := n.path
    name := n.name
    props := .ofList (s.properties.map fun p => (p.key, shown n s.formulas p.key))
    computed :=
      if evaluate then
        some (.ofList (s.formulas.names.map fun k => (k, shown n s.formulas (Spec.formulaKey k))))
      else none }

def toValue (r : Row) : Value :=
  .record ([("file".toList, .record [("path", .text r.path), ("name", .text r.name)]),
      ("props".toList, .record r.props.entries)] ++
    Decode.writeOptional "computed" (r.computed.map fun c => .record c.entries))

def ofValue? (v : Value) : Option Row := do
  let fs ← Decode.fields? v
  let file ← Decode.required ["file"] Decode.fields? fs
  return {
    path := ← Decode.required ["path"] Decode.text? file
    name := ← Decode.required ["name"] Decode.text? file
    props := ← Decode.required ["props"] Decode.record? fs
    computed := ← Decode.optional ["computed"] Decode.record? fs }

end Row

/-- The items of a page; pages are counted from 1. -/
def page {α : Type} (items : List α) (number limit : Nat) : List α :=
  (items.drop ((number - 1) * limit)).take limit

end NoteVault
