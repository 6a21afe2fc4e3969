import NoteVault.Proofs.Vault.Base
import NoteVault.Proofs.Vault.Listing
import NoteVault.Proofs.Vault.Place

/-! A vault that tells the key of a base from this key read once more. There is a base that every note
passes where the one leads, and a base that no note passes where the other leads. -/

namespace NoteVault

theorem exists_of_any_toOption {ε α : Type} {x : Except ε α} {p : α → Bool}
    (h : x.toOption.any p = true) : ∃ a, x = .ok a ∧ p a = true := by
  cases x with
  | error e => contradiction
  | ok a => exact ⟨a, rfl, h⟩

theorem Path.relative_suffix (vault p : Text) : Path.relative vault p <:+ p := by
  have hdrop : p.dropWhile (· == '/') <:+ p := List.dropWhile_suffix _
  by_cases hprefix : Path.trimSlashes vault <+: p.dropWhile (· == '/')
  · obtain ⟨rest, hrest⟩ := hprefix
    rw [Path.relative_of_append hrest.symm]
    rw [← hrest] at hdrop
    exact ((List.dropWhile_suffix _).trans (List.suffix_append _ rest)).trans hdrop
  · rw [Path.relative_of_not_prefix hprefix]
    exact hdrop

namespace Vault

open Address

variable {v : Vault} {base p q : Text} {bytes : Bytes}

theorem file?_of_get? (hfile : isFolder (v.address q) = false)
    (h : v.store.files.get? (v.address q) = some bytes) : v.file? q = some bytes := by
  unfold address at hfile h
  rw [file?, Store.read?, hfile, if_neg Bool.false_ne_true, h]

/-- What the key of a base leads to is not listed as a note. -/
theorem not_hasExtension_relative_ofBase (v : Vault) (base : Text) :
    ¬Path.hasExtension "md" (Path.relative v.root (v.address (Path.ofBase base))) = true := by
  intro h
  obtain ⟨l, d, hpath, hd⟩ := exists_of_hasExtension h
  obtain ⟨p, c, hkey, hc⟩ := Path.exists_ofBase_eq_append base
  have hletter : c.isAlpha = true := Text.isAlpha_of_isAlpha_toLower (by rw [hc]; rfl)
  obtain ⟨r, haddress⟩ := exists_address_append (Text.isBlank_eq_false_of_isAlpha hletter)
    (Text.ne_slash_of_isAlpha hletter) v p
  -- The listed path is the end of the address, so that both end in one letter, `d` and `e` at once.
  obtain ⟨t, ht⟩ := Path.relative_suffix v.root (v.address (Path.ofBase base))
  have hends : t ++ (l ++ [d]) = r ++ [c] := by rw [← hpath, ht, hkey, haddress]
  obtain rfl : d = c := by simpa using congrArg List.getLast? hends
  rw [hd] at hc
  exact absurd hc (by decide)

/-- The text of a base that no note passes. -/
def shut : Text := "filters:\n  or: []\n"

/-- Whether a filter asks for one of no filters. -/
def asksForNone : Filter → Bool
  | .any [] => true
  | _ => false

theorem exists_decode_shut :
    ∃ spec, Spec.decode shut = .ok spec ∧ Spec.filter? spec = some (.any []) := by
  obtain ⟨spec, hdecode, hshut⟩ : ∃ spec, Spec.decode shut = .ok spec ∧
      (Spec.filter? spec).any asksForNone = true := exists_of_any_toOption (by decide +kernel)
  refine ⟨spec, hdecode, ?_⟩
  obtain ⟨f, hf, hnone⟩ := (Option.any_eq_true _ _).mp hshut
  unfold asksForNone at hnone
  split at hnone
  · exact hf
  · contradiction

/-- A vault with an empty note, with an empty base where the key of a base leads, and with one that no
note passes where this key leads once it is read once more. -/
def parted (v : Vault) (base : Text) : Vault :=
  let files := (Index.empty.insert (v.address "a.md") []).insert (v.address (Path.ofBase base)) []
  { v with store :=
      ⟨files.insert (v.address (Path.ofBase (Path.ofBase base))) (Utf8.encode shut), .empty⟩ }

theorem get?_parted (v : Vault) (base a : Text) : (v.parted base).store.files.get? a =
    if a = v.address (Path.ofBase (Path.ofBase base)) then some (Utf8.encode shut)
    else if a = v.address (Path.ofBase base) then some []
    else if a = v.address "a.md" then some [] else none := by
  simp only [parted, Index.get?_insert]
  rfl

theorem exists_getSchema_ofBase_parted (v : Vault) (base : Text) : ∃ s,
    (v.parted base).getSchema (Path.ofBase base) = .ok s ∧ s.filter = some (.any []) := by
  obtain ⟨spec, hdecode, hfilter⟩ := exists_decode_shut
  have hfile : (v.parted base).file? (Path.ofBase (Path.ofBase base)) = some (Utf8.encode shut) := by
    apply file?_of_get? (not_isFolder_ofBase _ (Path.ofBase base))
    rw [get?_parted]
    exact if_pos rfl
  refine ⟨_, getSchema_of_readBase (readBase_of_file? hfile) ?_, hfilter⟩
  rw [Utf8.decode_encode]
  exact hdecode

theorem getSchema_parted
    (hkey : v.address (Path.ofBase (Path.ofBase base)) ≠ v.address (Path.ofBase base)) :
    (v.parted base).getSchema base = .ok (Spec.schema (Path.ofBase base) (.record [])) := by
  have hempty : Spec.decode (Utf8.decode []) = .ok (.record []) := by cbv
  have hfile : (v.parted base).file? (Path.ofBase base) = some [] := by
    apply file?_of_get? (not_isFolder_ofBase _ base)
    rw [get?_parted]
    exact (if_neg hkey.symm).trans (if_pos rfl)
  exact getSchema_of_readBase (readBase_of_file? hfile) hempty

section Folder

variable (hroot : Address.ofPath v.folder = v.folder)

include hroot

theorem relative_note : Path.relative v.root (v.address "a.md") = "a.md".toList :=
  relative_address_of_isNormal hroot (by decide)

theorem mem_listPaths_parted (base : Text) :
    q ∈ (v.parted base).listPaths "md" ↔ q = "a.md".toList := by
  rw [mem_listPaths]
  constructor
  · rintro ⟨⟨a, ha, rfl⟩, -, hext⟩
    obtain ⟨hkeys, -⟩ := mem_filesWithin.mp ha
    simp only [parted, Index.mem_keys_insert] at hkeys
    rcases hkeys with rfl | rfl | rfl | hnone
    · exact absurd hext (v.not_hasExtension_relative_ofBase (Path.ofBase base))
    · exact absurd hext (v.not_hasExtension_relative_ofBase base)
    · exact relative_note hroot
    · contradiction
  · rintro rfl
    have hwithin := isWithin_folder hroot (p := "a.md") (by decide) (by decide)
      (v.not_isFolder_of_isNormal (by decide))
    refine ⟨⟨v.address "a.md", mem_filesWithin.mpr ⟨?_, hwithin⟩, relative_note hroot⟩, by decide,
      by decide⟩
    simp [parted, Index.mem_keys_insert]

theorem hasStablePaths_parted (base : Text) : (v.parted base).HasStablePaths := by
  intro q hq
  obtain rfl := (mem_listPaths_parted hroot base).mp hq
  decide

theorem exists_listNotes_parted (base : Text) :
    ∃ n notes, (v.parted base).listNotes = .ok notes ∧ n ∈ notes := by
  refine ⟨(v.parted base).listed "a.md", _, listNotes_eq_ok_iff.mpr ⟨fun q hq => ?_, rfl⟩,
    List.mem_map_of_mem ((mem_listPaths_parted hroot base).mpr rfl)⟩
  obtain rfl := (mem_listPaths_parted hroot base).mp hq
  have hhas : ((v.parted base).store.files.get? (v.address "a.md")).isSome = true := by
    rw [get?_parted]
    split_ifs with _ _ hnote
    · rfl
    · rfl
    · rfl
    · exact absurd rfl hnote
  obtain ⟨bytes, hbytes⟩ := Option.isSome_iff_exists.mp hhas
  have hfile : (v.parted base).file? "a.md" = some bytes :=
    file?_of_get? (not_isFolder_of_isNormal _ (by decide)) hbytes
  exact Option.isSome_iff_exists.mpr ⟨bytes, hfile⟩

end Folder

end Vault

end NoteVault
