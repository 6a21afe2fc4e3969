import NoteVault.Base.Encoding
import NoteVault.Proofs.Filter.Encoding
import NoteVault.Proofs.Value.Decode
import NoteVault.Proofs.Value.Record

/-! A schema that is taken from a base is read back from the value that it writes. -/

namespace NoteVault

open Decode

theorem Property.ofValue?_toValue (p : Property) : ofValue? p.toValue = some p := by
  obtain ⟨key, kind, displayName, valueType⟩ := p
  cases kind <;> cases displayName <;> cases valueType <;> rfl

theorem Filter.optional_of_find? {names : List Text} {fs : Fields} {filter : Option Filter}
    (h : find? names fs = some (filter.map toValue)) (hwritten : ∀ f, filter = some f → f.IsWritten) :
    optional names (fun w => some (ofValue w)) fs = some filter := by
  refine Decode.optional_of_find? h fun f hf => ?_
  have hf : f.IsWritten := hwritten f hf
  exact ⟨isNull_toValue hf, congrArg some (ofValue_toValue hf)⟩

namespace View

/-- Whether the limit of a view fits into 64 bits and its filter is one that values write. -/
structure IsWritten (v : View) : Prop where
  limit : ∀ n, v.limit = some n → isUnsigned64 n = true
  filter : ∀ f, v.filter = some f → f.IsWritten

def slots (v : View) : List (Text × Option Value) :=
  [("name", some (.text v.name)), ("type", some (.text v.kind)),
    ("limit", v.limit.map fun n : Nat => .int n), ("order", some (.list (v.order.map .text))),
    ("filters", v.filter.map Filter.toValue), ("description", v.description.map .text)]

theorem toValue_eq_ofSlots (v : View) : v.toValue = .record (ofSlots v.slots) := by
  obtain ⟨name, kind, limit, order, filter, description⟩ := v
  cases limit <;> cases filter <;> cases description <;> rfl

theorem nodup_slots (v : View) : (v.slots.map Prod.fst).Nodup := by
  change (["name".toList, "type".toList, "limit".toList, "order".toList, "filters".toList,
    "description".toList] : List Text).Nodup
  decide

theorem ofValue?_toValue {v : View} (h : v.IsWritten) : ofValue? v.toValue = some v := by
  have hfind {name : Text} {w : Option Value} (hmem : (name, w) ∈ v.slots) :
      find? [name] (ofSlots v.slots) = some w := find?_ofSlots v.nodup_slots hmem
  have hname : required ["name"] text? (ofSlots v.slots) = some v.name := by
    have hname : find? ["name"] (ofSlots v.slots) = some (some (.text v.name)) :=
      hfind (by simp [slots])
    exact required_of_find? hname
  have hkind : required ["type"] text? (ofSlots v.slots) = some v.kind := by
    have hkind : find? ["type"] (ofSlots v.slots) = some (some (.text v.kind)) :=
      hfind (by simp [slots])
    exact required_of_find? hkind
  have hlimit : optional ["limit"] nat? (ofSlots v.slots) = some v.limit := by
    have hlimit : find? ["limit"] (ofSlots v.slots) = some (v.limit.map fun n : Nat => .int n) :=
      hfind (by simp [slots])
    exact optional_of_find? hlimit fun n hn => ⟨rfl, nat?_int (h.limit n hn)⟩
  have horder : withDefault ["order"] [] (list? text?) (ofSlots v.slots) = some v.order := by
    have horder : find? ["order"] (ofSlots v.slots) = some (some (.list (v.order.map .text))) :=
      hfind (by simp [slots])
    rw [withDefault_of_find? horder]
    exact list?_map fun _ _ => rfl
  have hfilter : optional ["filters"] (fun w => some (Filter.ofValue w)) (ofSlots v.slots) =
      some v.filter := Filter.optional_of_find? (hfind (by simp [slots])) h.filter
  have hdescription : optional ["description"] text? (ofSlots v.slots) = some v.description := by
    have hdescription : find? ["description"] (ofSlots v.slots) =
        some (v.description.map .text) := hfind (by simp [slots])
    exact optional_of_find? hdescription fun _ _ => ⟨rfl, rfl⟩
  rw [toValue_eq_ofSlots, ofValue?, fields?]
  simp only [Option.bind_eq_bind, Option.bind_some, hname, hkind, hlimit, horder, hfilter, hdescription]
  rfl

end View

namespace Schema

structure IsWritten (s : Schema) : Prop where
  views : ∀ v ∈ s.views, v.IsWritten
  filter : ∀ f, s.filter = some f → f.IsWritten

def slots (s : Schema) : List (Text × Option Value) :=
  [("base_path", some (.text s.base)),
    ("properties", some (.list (s.properties.map Property.toValue))),
    ("formulas", some (.record s.formulas.entries)),
    ("views", some (.list (s.views.map View.toValue))),
    ("filters", s.filter.map Filter.toValue)]

theorem toValue_eq_ofSlots (s : Schema) : s.toValue = .record (ofSlots s.slots) := by
  obtain ⟨base, properties, formulas, views, filter⟩ := s
  cases filter <;> rfl

theorem nodup_slots (s : Schema) : (s.slots.map Prod.fst).Nodup := by
  change (["base_path".toList, "properties".toList, "formulas".toList, "views".toList,
    "filters".toList] : List Text).Nodup
  decide

theorem ofValue?_toValue {s : Schema} (h : s.IsWritten) : ofValue? s.toValue = some s := by
  have hfind {name : Text} {w : Option Value} (hmem : (name, w) ∈ s.slots) :
      find? [name] (ofSlots s.slots) = some w := find?_ofSlots s.nodup_slots hmem
  have hbase : required ["base_path"] text? (ofSlots s.slots) = some s.base := by
    have hbase : find? ["base_path"] (ofSlots s.slots) = some (some (.text s.base)) :=
      hfind (by simp [slots])
    exact required_of_find? hbase
  have hproperties : required ["properties"] (list? Property.ofValue?) (ofSlots s.slots) =
      some s.properties := by
    have hproperties : find? ["properties"] (ofSlots s.slots) =
        some (some (.list (s.properties.map Property.toValue))) := hfind (by simp [slots])
    rw [required_of_find? hproperties]
    exact list?_map fun p _ => p.ofValue?_toValue
  have hformulas : required ["formulas"] record? (ofSlots s.slots) = some s.formulas := by
    have hformulas : find? ["formulas"] (ofSlots s.slots) =
        some (some (.record s.formulas.entries)) := hfind (by simp [slots])
    rw [required_of_find? hformulas, record?, Record.ofList_entries]
  have hviews : required ["views"] (list? View.ofValue?) (ofSlots s.slots) = some s.views := by
    have hviews : find? ["views"] (ofSlots s.slots) =
        some (some (.list (s.views.map View.toValue))) := hfind (by simp [slots])
    rw [required_of_find? hviews]
    exact list?_map fun v hv => View.ofValue?_toValue (h.views v hv)
  have hfilter : optional ["filters"] (fun w => some (Filter.ofValue w)) (ofSlots s.slots) =
      some s.filter := Filter.optional_of_find? (hfind (by simp [slots])) h.filter
  rw [toValue_eq_ofSlots, ofValue?, fields?]
  simp only [Option.bind_eq_bind, Option.bind_some, hbase, hproperties, hformulas, hviews, hfilter]
  rfl

end Schema

namespace Spec

theorem isWritten_filter? {v : Value} {f : Filter} (h : filter? v = some f) : f.IsWritten := by
  obtain ⟨w, -, hw⟩ := Option.bind_eq_some_iff.mp h
  exact Filter.isWritten_of_ofValue? hw

theorem isWritten_viewOf? {i : Nat} {w : Value} {v : View} (h : viewOf? i w = some v) :
    v.IsWritten := by
  cases w with
  | record fields =>
    obtain rfl := Option.some.inj h
    constructor
    · intro n hn
      obtain ⟨w, -, hw⟩ := Option.bind_eq_some_iff.mp hn
      exact isUnsigned64_of_nat? hw
    · intro f hf
      exact isWritten_filter? hf
  | null | bool _ | number _ | text _ | list _ => contradiction

theorem isWritten_of_mem_viewsFrom {v : View} {ws : List Value} {i : Nat}
    (h : v ∈ viewsFrom i ws) : v.IsWritten := by
  induction ws generalizing i with
  | nil => contradiction
  | cons w ws ih =>
    rcases List.mem_append.mp h with hv | hv
    · exact isWritten_viewOf? (Option.mem_toList.mp hv)
    · exact ih hv

theorem isWritten_schema (base : Text) (spec : Value) : (schema base spec).IsWritten :=
  ⟨fun _ hv => isWritten_of_mem_viewsFrom hv, fun _ hf => isWritten_filter? hf⟩

end Spec

/-- A filter that was read from a value is the same after it is written and read again, and so is a
schema that was taken from a base. -/
theorem encodings_faithful :
    (∀ v, Filter.ofValue (Filter.ofValue v).toValue = Filter.ofValue v) ∧
      ∀ base spec, Schema.ofValue? (Spec.schema base spec).toValue = some (Spec.schema base spec) :=
  ⟨fun v => Filter.ofValue_toValue (Filter.isWritten_ofValue v),
    fun base spec => Schema.ofValue?_toValue (Spec.isWritten_schema base spec)⟩

end NoteVault
