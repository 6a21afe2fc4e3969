import NoteVault.Note.Frontmatter
import NoteVault.Proofs.Value.Record

/-! Proper values, in which the fields of a record have different names. Such a value equals itself,
and the metadata that are read from a note hold no others. -/

namespace NoteVault

theorem Number.same_self (n : Number) : n.same n = true := by
  cases n with
  | int n => exact beq_self_eq_true n
  | real x => exact beq_self_eq_true x.rank

namespace Value

mutual

/-- Whether the fields of every record in a value have different names. -/
def IsProper : Value → Prop
  | .list items => AreProper items
  | .record fields => (fields.map Prod.fst).Nodup ∧ AreProperFields fields
  | _ => True

def AreProper : List Value → Prop
  | [] => True
  | v :: vs => v.IsProper ∧ AreProper vs

def AreProperFields : List (Text × Value) → Prop
  | [] => True
  | (_, v) :: fs => v.IsProper ∧ AreProperFields fs

end

theorem areProperFields_iff {fields : List (Text × Value)} :
    AreProperFields fields ↔ ∀ f ∈ fields, f.2.IsProper := by
  induction fields with
  | nil => simp [AreProperFields]
  | cons f fs ih => simp [AreProperFields, ih]

theorem AreProperFields.setEntry {name : Text} {v : Value} {fields : List (Text × Value)}
    (hv : v.IsProper) (h : AreProperFields fields) : AreProperFields (setEntry name v fields) := by
  rw [areProperFields_iff] at h ⊢
  intro f hf
  rcases mem_setEntry hf with rfl | hold
  · exact hv
  · exact h f hold

mutual

theorem same_self : {v : Value} → v.IsProper → v.same v = true
  | .null, _ => rfl
  | .bool b, _ => beq_self_eq_true b
  | .number n, _ => n.same_self
  | .text t, _ => beq_self_eq_true t
  | .list _, h => sameItems_self h
  | .record fs, h => by
    have hfields : sameFields fs fs = true :=
      sameFields_of_lookup h.2 fun f hf => (lookup_eq_some_iff_mem h.1).mpr hf
    rw [same, hfields, beq_self_eq_true]
    rfl

theorem sameItems_self : {vs : List Value} → AreProper vs → sameItems vs vs = true
  | [], _ => rfl
  | v :: vs, h => by
    have hv : v.same v = true := same_self h.1
    have hvs : sameItems vs vs = true := sameItems_self h.2
    rw [sameItems, hv, hvs]
    rfl

/-- The fields of the one list are looked up in the other, which may be longer. -/
theorem sameFields_of_lookup : {fs gs : List (Text × Value)} → AreProperFields fs →
    (∀ f ∈ fs, gs.lookup f.1 = some f.2) → sameFields fs gs = true
  | [], _, _, _ => rfl
  | (k, v) :: fs, gs, h, hgs => by
    have hv : v.same v = true := same_self h.1
    have hlookup : gs.lookup k = some v := hgs (k, v) List.mem_cons_self
    have hfs : sameFields fs gs = true :=
      sameFields_of_lookup h.2 fun f hf => hgs f (List.mem_cons_of_mem _ hf)
    rw [sameFields, hlookup, hfs]
    simp [hv]

end

end Value

namespace Yaml.Data

open Value

mutual

theorem isProper_of_toValue? : {d : Data} → {v : Value} → d.toValue? = some v → v.IsProper
  | .scalar m, v, h => by
    obtain rfl := Option.some.inj h
    cases m <;> trivial
  | .sequence items, v, h => by
    obtain ⟨vs, hvs, rfl⟩ := Option.map_eq_some_iff.mp h
    exact areProper_of_toValues? hvs
  | .mapping entries, v, h => by
    obtain ⟨fs, hfs, rfl⟩ := Option.map_eq_some_iff.mp h
    exact isProper_of_toFields? hfs List.nodup_nil trivial
  | .tagged tag content, v, h => by
    obtain ⟨w, hw, rfl⟩ := Option.map_eq_some_iff.mp h
    have hproper : w.IsProper := isProper_of_toValue? hw
    exact ⟨List.pairwise_singleton _ _, hproper, trivial⟩

theorem areProper_of_toValues? : {ds : List Data} → {vs : List Value} →
    toValues? ds = some vs → AreProper vs
  | [], vs, h => by
    obtain rfl := Option.some.inj h
    trivial
  | d :: ds, vs, h => by
    rw [toValues?] at h
    split at h
    · next v vs' hv hvs =>
      obtain rfl := Option.some.inj h
      exact ⟨isProper_of_toValue? hv, areProper_of_toValues? hvs⟩
    · contradiction

theorem isProper_of_toFields? : {es : List (Data × Data)} → {done fs : List (Text × Value)} →
    toFields? done es = some fs → (done.map Prod.fst).Nodup → AreProperFields done →
    (Value.record fs).IsProper
  | [], done, fs, h, hnodup, hdone => by
    obtain rfl := Option.some.inj h
    exact ⟨hnodup, hdone⟩
  | (k, d) :: es, done, fs, h, hnodup, hdone => by
    rw [toFields?] at h
    split at h
    · next name v hname hv =>
      have hproper : v.IsProper := isProper_of_toValue? hv
      exact isProper_of_toFields? h (nodup_setEntry hnodup) (hdone.setEntry hproper)
    · contradiction

end

end Yaml.Data

namespace Frontmatter

/-- Whether the values of some metadata are proper. -/
def IsProper (m : Frontmatter) : Prop := ∀ e ∈ m.entries, e.2.IsProper

theorem IsProper.same_self {m : Frontmatter} (h : m.IsProper) {key : Text} {v : Value}
    (hv : m.get? key = some v) : v.same v = true :=
  Value.same_self (h (key, v) (Record.get?_eq_some_iff.mp hv))

theorem isProper_empty : IsProper .empty := fun _ he => absurd he List.not_mem_nil

theorem isProper_ofBlock (yaml : Text) : (ofBlock yaml).IsProper := by
  unfold ofBlock
  split_ifs
  · exact isProper_empty
  · cases hdecode : decode? yaml with
    | none => exact isProper_empty
    | some m =>
      unfold decode? at hdecode
      split at hdecode
      · next fields hfields =>
        obtain rfl := Option.some.inj hdecode
        obtain ⟨d, -, hd⟩ := Option.bind_eq_some_iff.mp hfields
        have hproper := (Yaml.Data.isProper_of_toValue? hd).2
        exact fun e he => Value.areProperFields_iff.mp hproper e (Record.mem_of_mem_entries_ofList he)
      · contradiction

/-- The metadata of a note are proper, whatever its text. -/
theorem isProper_ofMarkdown (markdown : Text) : (ofMarkdown markdown).IsProper := by
  unfold ofMarkdown
  cases (Fence.split markdown).1 with
  | none => exact isProper_empty
  | some yaml => exact isProper_ofBlock yaml

end Frontmatter

end NoteVault
