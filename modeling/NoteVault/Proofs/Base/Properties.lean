import Mathlib.Data.List.Nodup
import Mathlib.Tactic.SplitIfs
import NoteVault.Base.Schema
import NoteVault.Proofs.Value.Proper

/-! The properties of a schema. Those that a base declares come first, and the property of a formula
takes the place of a declared one of its key or stands behind them, so that no key occurs twice. -/

namespace NoteVault

/-- Whether a property shows a formula. -/
structure Property.ShowsFormula (p : Property) : Prop where
  kind : p.kind = .formula
  valueType : p.valueType = some "formula".toList

namespace Spec

theorem formulaKey_injective : Function.Injective formulaKey := fun _ _ h => List.append_cancel_left h

section Properties

variable {ps : List Property} {p : Property} {name key : Text} {v : Value}

theorem withFormula_cons (p : Property) (ps : List Property) (name : Text) (v : Value) :
    withFormula (p :: ps) name v =
      if p.key = formulaKey name then
        { p with kind := .formula, valueType := some "formula"
                 displayName := (displayName? v).or p.displayName } :: ps
      else p :: withFormula ps name v := by
  rw [withFormula]
  simp only [beq_iff_eq]

theorem keys_withFormula (ps : List Property) (name : Text) (v : Value) :
    (withFormula ps name v).map Property.key =
      if formulaKey name ∈ ps.map Property.key then ps.map Property.key
      else ps.map Property.key ++ [formulaKey name] := by
  induction ps with
  | nil => rfl
  | cons p ps ih =>
    rw [withFormula_cons]
    by_cases h : p.key = formulaKey name
    · simp [h]
    · have h' : ¬formulaKey name = p.key := fun heq => h heq.symm
      simp only [h, if_false, List.map_cons, ih, List.mem_cons, h', false_or]
      split_ifs <;> rfl

/-- A property is that of the formula, or it has another key and was there before. -/
theorem mem_withFormula (h : (ps.map Property.key).Nodup) (hp : p ∈ withFormula ps name v) :
    p.key = formulaKey name ∧ p.ShowsFormula ∨ p.key ≠ formulaKey name ∧ p ∈ ps := by
  induction ps with
  | nil =>
    obtain rfl := List.mem_singleton.mp hp
    exact .inl ⟨rfl, rfl, rfl⟩
  | cons q ps ih =>
    obtain ⟨hq, hps⟩ := List.nodup_cons.mp h
    rw [withFormula_cons] at hp
    by_cases hkey : q.key = formulaKey name
    · rw [if_pos hkey] at hp
      rcases List.mem_cons.mp hp with rfl | hmem
      · exact .inl ⟨hkey, rfl, rfl⟩
      · refine .inr ⟨fun heq => hq ?_, List.mem_cons_of_mem q hmem⟩
        rw [hkey, ← heq]
        exact List.mem_map_of_mem hmem
    · rw [if_neg hkey] at hp
      rcases List.mem_cons.mp hp with rfl | hmem
      · exact .inr ⟨hkey, List.mem_cons_self⟩
      · exact (ih hps hmem).imp_right fun hold => ⟨hold.1, List.mem_cons_of_mem q hold.2⟩

theorem nodup_keys_withFormula (h : (ps.map Property.key).Nodup) :
    ((withFormula ps name v).map Property.key).Nodup := by
  rw [keys_withFormula]
  split_ifs with hmem
  · exact h
  · exact List.nodup_append.mpr ⟨h, List.pairwise_singleton _ _, fun a ha b hb heq =>
      hmem (List.mem_singleton.mp hb ▸ heq ▸ ha)⟩

end Properties

/-- Some properties with those of some formulas. -/
def withFormulas (es : List (Text × Text × Value)) (ps : List Property) : List Property :=
  es.foldl (fun ps (k, _, v) => withFormula ps k v) ps

section Formulas

variable {es : List (Text × Text × Value)} {ps : List Property} {p : Property} {key : Text}

/-- The keys of the formulas that no property declares stand behind those of the properties. -/
theorem keys_withFormulas (h : (es.map Prod.fst).Nodup) (ps : List Property) :
    (withFormulas es ps).map Property.key = ps.map Property.key ++
      ((es.map Prod.fst).map formulaKey).filter (isNoneOf (ps.map Property.key)) := by
  have hnodup : (es.map (formulaKey ∘ Prod.fst)).Nodup := by
    rw [← List.map_map]
    exact h.map formulaKey_injective
  rw [List.map_map]
  exact names_foldl (List.map Property.key) (fun ps e => keys_withFormula ps e.1 e.2.2) hnodup ps

theorem nodup_keys_withFormulas (h : (ps.map Property.key).Nodup) :
    ((withFormulas es ps).map Property.key).Nodup := by
  induction es generalizing ps with
  | nil => exact h
  | cons e es ih => exact ih (nodup_keys_withFormula h)

/-- A property that shows a formula goes on to do so. -/
theorem showsFormula_withFormulas (h : (ps.map Property.key).Nodup)
    (hshows : ∀ q ∈ ps, q.key = key → q.ShowsFormula) (hp : p ∈ withFormulas es ps)
    (hkey : p.key = key) : p.ShowsFormula := by
  induction es generalizing ps with
  | nil => exact hshows p hp hkey
  | cons e es ih =>
    refine ih (nodup_keys_withFormula h) (fun q hq hqkey => ?_) hp
    rcases mem_withFormula h hq with ⟨-, hq⟩ | ⟨-, hq⟩
    · exact hq
    · exact hshows q hq hqkey

theorem showsFormula_of_mem (h : (ps.map Property.key).Nodup) {name : Text}
    (hname : name ∈ es.map Prod.fst) (hp : p ∈ withFormulas es ps) (hkey : p.key = formulaKey name) :
    p.ShowsFormula := by
  induction es generalizing ps with
  | nil => exact absurd hname List.not_mem_nil
  | cons e es ih =>
    have hstep : ((withFormula ps e.1 e.2.2).map Property.key).Nodup := nodup_keys_withFormula h
    rcases List.mem_cons.mp hname with rfl | hes
    · refine showsFormula_withFormulas hstep (fun q hq hqkey => ?_) hp hkey
      rcases mem_withFormula h hq with ⟨-, hq⟩ | ⟨hne, -⟩
      · exact hq
      · exact absurd hqkey hne
    · exact ih hstep hes hp

end Formulas

section Proper

variable {spec : Value}

theorem nodup_section (h : spec.IsProper) (name : Text) :
    (((section? spec name).getD []).map Prod.fst).Nodup := by
  cases hsection : section? spec name with
  | none => exact List.nodup_nil
  | some fields =>
    obtain ⟨v, hv, hfields⟩ := Option.bind_eq_some_iff.mp hsection
    cases spec with
    | record fs =>
      have hmem : (name, v) ∈ fs := (lookup_eq_some_iff_mem h.1).mp hv
      have hproper : v.IsProper := Value.areProperFields_iff.mp h.2 _ hmem
      cases v with
      | record gs =>
        obtain rfl := Option.some.inj hfields
        exact hproper.1
      | _ => contradiction
    | _ => contradiction

/-- The keys of the properties that a base declares. -/
def declaredKeys (spec : Value) : List Text :=
  ((section? spec "properties").getD []).map Prod.fst

theorem keys_properties (spec : Value) :
    (properties spec).map Property.key = declaredKeys spec := by
  rw [properties, declaredKeys, List.map_map]
  rfl

theorem names_declared_sublist (spec : Value) :
    ((declared spec).map Prod.fst).Sublist (((section? spec "formulas").getD []).map Prod.fst) := by
  unfold declared
  induction (section? spec "formulas").getD [] with
  | nil => exact .slnil
  | cons f fs ih =>
    obtain ⟨k, v⟩ := f
    cases he : expression? v with
    | none =>
      simp only [List.filterMap_cons, he, Option.map_none]
      exact ih.cons k
    | some e =>
      simp only [List.filterMap_cons, he, Option.map_some]
      exact ih.cons_cons k

theorem nodup_declared (h : spec.IsProper) : ((declared spec).map Prod.fst).Nodup :=
  (nodup_section h "formulas").sublist (names_declared_sublist spec)

theorem names_formulas (h : spec.IsProper) :
    (formulas spec).names = (declared spec).map Prod.fst :=
  Record.names_ofList_map (nodup_declared h) fun e => Value.text e.2.1

end Proper

end Spec

end NoteVault
