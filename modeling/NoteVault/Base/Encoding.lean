import NoteVault.Base.Schema

/-! Schemas as values. -/

namespace NoteVault

open Decode

namespace PropertyKind

def words : List (Text × PropertyKind) :=
  [("note", .note), ("file", .file), ("formula", .formula), ("unknown", .unknown)]

def word : PropertyKind → Text
  | .note => "note"
  | .file => "file"
  | .formula => "formula"
  | .unknown => "unknown"

end PropertyKind

namespace Property

def toValue (p : Property) : Value :=
  .record ([("key".toList, .text p.key), ("kind".toList, .text p.kind.word)] ++
    writeOptional "display_name" (p.displayName.map .text) ++
    writeOptional "value_type" (p.valueType.map .text))

def ofValue? (v : Value) : Option Property := do
  let fs ← fields? v
  return {
    key := ← required ["key"] text? fs
    kind := ← required ["kind"] (word? PropertyKind.words) fs
    displayName := ← optional ["display_name"] text? fs
    valueType := ← optional ["value_type"] text? fs }

end Property

namespace View

def toValue (v : View) : Value :=
  .record ([("name".toList, .text v.name), ("type".toList, .text v.kind)] ++
    writeOptional "limit" (v.limit.map fun n => .int n) ++
    [("order".toList, .list (v.order.map .text))] ++
    writeOptional "filters" (v.filter.map Filter.toValue) ++
    writeOptional "description" (v.description.map .text))

def ofValue? (v : Value) : Option View := do
  let fs ← fields? v
  return {
    name := ← required ["name"] text? fs
    kind := ← required ["type"] text? fs
    limit := ← optional ["limit"] nat? fs
    order := ← withDefault ["order"] [] (list? text?) fs
    filter := ← optional ["filters"] (fun v => some (Filter.ofValue v)) fs
    description := ← optional ["description"] text? fs }

end View

namespace Schema

def toValue (s : Schema) : Value :=
  .record ([("base_path".toList, .text s.base),
      ("properties".toList, .list (s.properties.map Property.toValue)),
      ("formulas".toList, .record s.formulas.entries),
      ("views".toList, .list (s.views.map View.toValue))] ++
    writeOptional "filters" (s.filter.map Filter.toValue))

def ofValue? (v : Value) : Option Schema := do
  let fs ← fields? v
  return {
    base := ← required ["base_path"] text? fs
    properties := ← required ["properties"] (list? Property.ofValue?) fs
    formulas := ← required ["formulas"] record? fs
    views := ← required ["views"] (list? View.ofValue?) fs
    filter := ← optional ["filters"] (fun v => some (Filter.ofValue v)) fs }

end Schema

end NoteVault
