import NoteVault.Proofs.Note.Rereading
import NoteVault.Proofs.Text.Utf8
import NoteVault.Proofs.Vault.Written
import NoteVault.Vault.Base

/-! What writing a base does. A text that is no base is refused and leaves the vault as it was; any
other text becomes the file of the base, and the schema of the base is that of the text. -/

namespace NoteVault

namespace Spec

variable {raw : Text} {spec : Value} {f : Fault}

/-- Whether the sections of a base are missing, null or of the shape that is read. -/
structure IsWellFormed (spec : Value) : Prop where
  properties : ∀ w, spec.get? "properties" = some w → w = .null ∨ w.isRecord = true
  formulas : ∀ w, spec.get? "formulas" = some w → w = .null ∨ w.isRecord = true
  views : ∀ w, spec.get? "views" = some w → w = .null ∨ w.isList = true

theorem isNullOr_iff {shape : Value → Bool} {v : Option Value} :
    isNullOr shape v = true ↔ ∀ w, v = some w → w = .null ∨ shape w = true := by
  cases v with
  | none => simp [isNullOr]
  | some w => cases w <;> simp [isNullOr, Value.isNull]

theorem sectionFault?_eq_none_iff : sectionFault? spec = none ↔ IsWellFormed spec := by
  have hshapes : IsWellFormed spec ↔ isNullOr Value.isRecord (spec.get? "properties") = true ∧
      isNullOr Value.isRecord (spec.get? "formulas") = true ∧
      isNullOr Value.isList (spec.get? "views") = true := by
    rw [isNullOr_iff, isNullOr_iff, isNullOr_iff]
    exact ⟨fun h => ⟨h.1, h.2, h.3⟩, fun h => ⟨h.1, h.2.1, h.2.2⟩⟩
  rw [hshapes, sectionFault?]
  cases isNullOr Value.isRecord (spec.get? "properties") <;>
    cases isNullOr Value.isRecord (spec.get? "formulas") <;>
    cases isNullOr Value.isList (spec.get? "views") <;> simp

theorem kind_of_sectionFault? (h : sectionFault? spec = some f) : f.kind = .validation := by
  unfold sectionFault? at h
  split at h
  · obtain rfl := Option.some.inj h
    rfl
  split at h
  · obtain rfl := Option.some.inj h
    rfl
  split at h
  · obtain rfl := Option.some.inj h
    rfl
  · contradiction

theorem kind_of_decode (h : decode raw = .error f) : f.kind = .validation := by
  unfold decode at h
  split at h
  · cases h
    rfl
  · split at h
    · cases h
      rfl
    · contradiction
    · contradiction
    · cases h
      rfl

end Spec

namespace Vault

open Address

variable {v : Vault} {base key raw p q : Text} {f : Fault} {s : Schema}

/-- Whether a text is taken as that of the base with a key. -/
def TakesBase (key raw : Text) : Prop :=
  key ≠ Path.unnamedBase ∧ ∃ spec, Spec.decode raw = .ok spec ∧ Spec.IsWellFormed spec

theorem baseFault?_eq_none_iff : baseFault? key raw = none ↔ TakesBase key raw := by
  unfold baseFault? TakesBase
  by_cases hkey : key = Path.unnamedBase
  · simp [hkey]
  · cases hdecode : Spec.decode raw with
    | error f => simp [hkey]
    | ok spec => simp [hkey, Spec.sectionFault?_eq_none_iff]

theorem kind_of_baseFault? (h : baseFault? key raw = some f) : f.kind = .validation := by
  unfold baseFault? at h
  split at h
  · cases h
    rfl
  · split at h
    · next hdecode =>
      obtain rfl := Option.some.inj h
      exact Spec.kind_of_decode hdecode
    · exact Spec.kind_of_sectionFault? h

theorem not_isFolder_ofBase (v : Vault) (base : Text) :
    isFolder (v.address (Path.ofBase base)) = false := by
  obtain ⟨p, c, hkey, hc⟩ := Path.exists_ofBase_eq_append base
  have hletter : c.isAlpha = true := Text.isAlpha_of_isAlpha_toLower (by rw [hc]; rfl)
  rw [hkey]
  exact not_isFolder_append (Text.isBlank_eq_false_of_isAlpha hletter)
    (Text.ne_slash_of_isAlpha hletter) v p

theorem readBase_of_file? {bytes : Bytes} (h : v.file? (Path.ofBase base) = some bytes) :
    v.readBase base = .ok (Utf8.decode bytes) := by
  rw [file?] at h
  rw [readBase, h]

theorem getSchema_of_readBase {spec : Value} (hread : v.readBase base = .ok raw)
    (hdecode : Spec.decode raw = .ok spec) :
    v.getSchema base = .ok (Spec.schema (Path.ofBase base) spec) := by
  rw [getSchema, loadSpec, hread, Except.bind, hdecode]
  rfl

theorem file?_congr (h : v.address p = v.address q) : v.file? p = v.file? q := by
  unfold address at h
  simp only [file?, Store.read?, h]

theorem getSchema_eq_ok_iff : v.getSchema base = .ok s ↔
    ∃ bytes spec, v.file? (Path.ofBase base) = some bytes ∧
      Spec.decode (Utf8.decode bytes) = .ok spec ∧ s = Spec.schema (Path.ofBase base) spec := by
  constructor
  · intro h
    cases hfile : v.file? (Path.ofBase base) with
    | none =>
      rw [file?] at hfile
      simp [getSchema, loadSpec, readBase, hfile, Except.bind, Except.map] at h
    | some bytes =>
      have hread := readBase_of_file? hfile
      cases hdecode : Spec.decode (Utf8.decode bytes) with
      | error f => simp [getSchema, loadSpec, hread, hdecode, Except.bind, Except.map] at h
      | ok spec =>
        rw [getSchema_of_readBase hread hdecode] at h
        exact ⟨bytes, spec, rfl, hdecode, (Except.ok.inj h).symm⟩
  · rintro ⟨bytes, spec, hfile, hdecode, rfl⟩
    exact getSchema_of_readBase (readBase_of_file? hfile) hdecode

/-- Keys that lead to the same file have the same schema, but for the key itself. -/
theorem exists_getSchema_of_address
    (hkey : v.address (Path.ofBase (Path.ofBase base)) = v.address (Path.ofBase base))
    (hs : v.getSchema base = .ok s) :
    ∃ s', v.getSchema (Path.ofBase base) = .ok s' ∧ s'.formulas = s.formulas ∧
      s'.filter = s.filter ∧ s'.views = s.views := by
  obtain ⟨bytes, spec, hfile, hdecode, rfl⟩ := getSchema_eq_ok_iff.mp hs
  rw [← file?_congr hkey] at hfile
  refine ⟨_, getSchema_eq_ok_iff.mpr ⟨bytes, spec, hfile, hdecode, rfl⟩, ?_⟩
  simp only [Spec.schema, and_self]

/-- What writing a base can come to. -/
inductive BaseOutcome (v : Vault) (base raw : Text) : Except Fault Text → Vault → Prop
  | refused {f : Fault} (kind : f.kind = .validation) (reason : ¬TakesBase (Path.ofBase base) raw) :
      BaseOutcome v base raw (.error f) v
  | stored {w : Vault} {spec : Value} (takes : TakesBase (Path.ofBase base) raw)
      (text : w.readBase base = .ok raw) (decoded : Spec.decode raw = .ok spec)
      (schema : w.getSchema base = .ok (Spec.schema (Path.ofBase base) spec))
      (others : ∀ a, a ≠ v.address (Path.ofBase base) → w.store.files.get? a = v.store.files.get? a) :
      BaseOutcome v base raw (.ok (Path.ofBase base)) w

theorem baseOutcome_stored (h : TakesBase (Path.ofBase base) raw) :
    v.BaseOutcome base raw (.ok (Path.ofBase base))
      (v.writeFile (Path.ofBase base) (Utf8.encode raw)).2 := by
  have hfile := v.not_isFolder_ofBase base
  have ⟨_, spec, hdecode, _⟩ := h
  obtain ⟨-, -, hbytes⟩ := writeFile_of_not_isFolder hfile (Utf8.encode raw)
  have htext := readBase_of_file? ((hbytes (Path.ofBase base)).trans (if_pos rfl))
  rw [Utf8.decode_encode] at htext
  refine .stored h htext hdecode (getSchema_of_readBase htext hdecode) ?_
  intro a ha
  rw [writeFile_eq hfile]
  exact (Index.get?_insert _ _ _ _).trans (if_neg ha)

/-- A base is stored as a whole, and what is stored can be used, or nothing changes. -/
theorem baseOutcome_writeBase (v : Vault) (base raw : Text) :
    v.BaseOutcome base raw (v.writeBase base raw).1 (v.writeBase base raw).2 := by
  cases hfault : baseFault? (Path.ofBase base) raw with
  | some f =>
    have hwrite : v.writeBase base raw = (.error f, v) := by rw [writeBase, hfault]
    have hreason : ¬TakesBase (Path.ofBase base) raw := by
      rw [← baseFault?_eq_none_iff, hfault]
      simp
    rw [hwrite]
    exact .refused (kind_of_baseFault? hfault) hreason
  | none =>
    have hsome := v.writeFile_eq (v.not_isFolder_ofBase base) (Utf8.encode raw)
    have hwrite : v.writeBase base raw =
        (.ok (Path.ofBase base), (v.writeFile (Path.ofBase base) (Utf8.encode raw)).2) := by
      rw [writeBase, hfault]
      dsimp only
      rw [hsome]
    rw [hwrite]
    exact baseOutcome_stored (baseFault?_eq_none_iff.mp hfault)

end Vault

end NoteVault
