import Mathlib.Data.List.Nodup
import NoteVault.Proofs.Base.Properties
import NoteVault.Query.Row

/-! The rows of a base. A row has one value for each property of the schema, in the order of the
schema, and if they are asked for one value for each formula, which is that of its property. -/

namespace NoteVault

/-- Whether the properties of a schema have different keys, begin with those that a base declares and
show each formula once. -/
structure Schema.Covers (s : Schema) (spec : Value) : Prop where
  nodup : (s.properties.map Property.key).Nodup
  declared : Spec.declaredKeys spec <+: s.properties.map Property.key
  formula : ∀ name ∈ s.formulas.names, ∃ p ∈ s.properties, p.key = Spec.formulaKey name ∧
    p.ShowsFormula ∧ ∀ q ∈ s.properties, q.key = Spec.formulaKey name → q = p

/-- Whether a row has a value for each property of a schema, and one for each formula if and only if
they are asked for. -/
structure Row.Fills (r : Row) (s : Schema) (evaluate : Bool) : Prop where
  props : r.props.names = s.properties.map Property.key
  evaluated : r.computed.isSome = evaluate
  names : ∀ c, r.computed = some c → c.names = s.formulas.names
  computed : ∀ c, r.computed = some c → ∀ name ∈ s.formulas.names,
    ∃ v, c.get? name = some v ∧ r.props.get? (Spec.formulaKey name) = some v

theorem Spec.covers_schema {spec : Value} (h : spec.IsProper) (base : Text) :
    (schema base spec).Covers spec := by
  have hdeclared : ((properties spec).map Property.key).Nodup := by
    rw [keys_properties]
    exact nodup_section h "properties"
  have hkeys : (schema base spec).properties.map Property.key = declaredKeys spec ++
      ((formulas spec).names.map formulaKey).filter (isNoneOf (declaredKeys spec)) := by
    rw [names_formulas h, ← keys_properties]
    exact keys_withFormulas (nodup_declared h) (properties spec)
  have hnodup : ((schema base spec).properties.map Property.key).Nodup :=
    nodup_keys_withFormulas hdeclared
  refine ⟨hnodup, hkeys ▸ List.prefix_append _ _, fun name hname => ?_⟩
  have hmem : formulaKey name ∈ (schema base spec).properties.map Property.key := by
    have hmap := List.mem_map_of_mem (f := formulaKey) hname
    rw [hkeys, List.mem_append, List.mem_filter]
    by_cases hold : formulaKey name ∈ declaredKeys spec
    · exact .inl hold
    · exact .inr ⟨hmap, isNoneOf_iff.mpr hold⟩
  obtain ⟨p, hp, hkey⟩ := List.mem_map.mp hmem
  have hname' : name ∈ (declared spec).map Prod.fst := names_formulas h ▸ hname
  refine ⟨p, hp, hkey, showsFormula_of_mem hdeclared hname' hp hkey, fun q hq hqkey => ?_⟩
  exact List.inj_on_of_nodup_map hnodup hq hp (hqkey.trans hkey.symm)

namespace Row

variable {s : Schema} {n : Note} {evaluate : Bool}

theorem eq_of_computed_build {c : Record Value} (h : (build n s evaluate).computed = some c) :
    c = .ofList (s.formulas.names.map fun name =>
      (name, shown n s.formulas (Spec.formulaKey name))) := by
  cases evaluate with
  | false => contradiction
  | true => exact (Option.some.inj h).symm

theorem fills_build {spec : Value} (h : s.Covers spec) (n : Note) (evaluate : Bool) :
    (build n s evaluate).Fills s evaluate := by
  have hnames : (s.formulas.names.map fun name => name).Nodup := by
    rw [List.map_id']
    exact s.formulas.nodup
  refine ⟨Record.names_ofList_map h.nodup _, ?_, fun c hc => ?_, fun c hc name hname => ?_⟩
  · cases evaluate <;> rfl
  · obtain rfl := eq_of_computed_build hc
    rw [Record.names_ofList_map hnames, List.map_id']
  · obtain rfl := eq_of_computed_build hc
    obtain ⟨p, hp, hkey, -⟩ := h.formula name hname
    refine ⟨shown n s.formulas (Spec.formulaKey name), Record.get?_ofList_map hnames _ hname, ?_⟩
    rw [← hkey]
    exact Record.get?_ofList_map h.nodup _ hp

end Row

/-- The schema of a base covers what the base declares, and the rows of every note fill it. What they
show of the properties does not depend on whether formulas are asked for. -/
theorem Spec.fills_schema {spec : Value} (h : spec.IsProper) (base : Text) :
    (schema base spec).Covers spec ∧ ∀ n : Note,
      (Row.build n (schema base spec) true).props = (Row.build n (schema base spec) false).props ∧
        ∀ evaluate, (Row.build n (schema base spec) evaluate).Fills (schema base spec) evaluate :=
  ⟨covers_schema h base, fun n => ⟨rfl, Row.fills_build (covers_schema h base) n⟩⟩

/-- A base that declares the property of one of its formulas, and a formula without a text. -/
def labelSpec : Value :=
  .record [("properties", .record [("formula.label", .null), ("status", .text "x")]),
    ("formulas", .record [("score", .int 1), ("label", .text "status"), ("none", .null)])]

theorem Spec.fills_schema_label : labelSpec.IsProper ∧ (schema "T.base" labelSpec).Covers labelSpec ∧
    (schema "T.base" labelSpec).properties.map Property.key =
      ["formula.label".toList, "status".toList, "formula.score".toList] := by
  have hproper : labelSpec.IsProper := by
    refine ⟨by decide, ⟨by decide, ?_⟩, ⟨by decide, ?_⟩, trivial⟩
    · exact ⟨trivial, trivial, trivial⟩
    · exact ⟨trivial, trivial, trivial, trivial⟩
  exact ⟨hproper, (fills_schema hproper "T.base").1, by decide⟩

end NoteVault
