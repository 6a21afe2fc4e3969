import NoteVault.Proofs.Index
import NoteVault.Proofs.Store.Steps
import NoteVault.Proofs.Text.Affix
import NoteVault.Store.Medium

/-!
What an access that fails leaves in a store. A path is answered in another way than before only if it
leads to what could not be created or written, or to a folder that holds it.
-/

namespace NoteVault

namespace Store

theorem parent?_eq_some {p folder : Text} (h : parent? p = some folder) :
    ∃ above name, '/' ∉ name ∧ p = above ++ '/' :: name ∧ folder = above ++ ['/'] := by
  obtain ⟨⟨above, name⟩, hcut, habove⟩ := Option.bind_eq_some_iff.mp h
  obtain ⟨rfl, hname⟩ := Text.cutLast?_eq_some hcut
  refine ⟨above, name, hname, rfl, ?_⟩
  by_cases hnil : above = []
  · simp [hnil] at habove
  · simpa [hnil] using habove.symm

end Store

namespace Address

variable {a b c p folder : Text}

theorem isWithin_iff : isWithin a b = true ↔ a = ['/'] ∨ a <+: b := by
  rw [isWithin, Bool.or_eq_true, beq_iff_eq, Text.beginsWith_iff]

theorem isWithin_self (a : Text) : isWithin a a = true :=
  isWithin_iff.mpr (.inr (List.prefix_refl a))

theorem isWithin_trans (hab : isWithin a b = true) (hbc : isWithin b c = true) :
    isWithin a c = true := by
  rw [isWithin_iff] at hab hbc ⊢
  rcases hab with htop | hab
  · exact .inl htop
  rcases hbc with rfl | hbc
  · -- Only the empty text and the top itself begin the address of the top.
    rcases List.prefix_cons_iff.mp hab with rfl | ⟨t, rfl, ht⟩
    · exact .inr (List.nil_prefix)
    · rw [List.prefix_nil.mp ht]
      exact .inl rfl
  · exact .inr (hab.trans hbc)

theorem trimEnd_of_isFolder {above name : Text} (hname : '/' ∉ name)
    (h : isFolder (ofPath (above ++ '/' :: name)) = true) : Text.trimEnd name = [] := by
  by_contra hne
  obtain ⟨init, c, hend⟩ := (List.eq_nil_or_concat (Text.trimEnd name)).resolve_left hne
  rw [List.concat_eq_append] at hend
  have hidem : Text.trimEnd (Text.trimEnd name) = Text.trimEnd name := List.rdropWhile_idempotent _ _
  have hblank : Text.isBlank c = false :=
    Text.trimEnd_eq_self_iff.mp hidem c (by rw [hend, List.getLast?_concat]; rfl)
  have hslash : c ≠ '/' := by
    rintro rfl
    have hsub : (Text.trimEnd name).Sublist name := List.rdropWhile_prefix _ _ |>.sublist
    exact hname (hsub.subset (by simp [hend]))
  have htrim : Text.trim (above ++ '/' :: name) =
      (Text.trimStart above ++ '/' :: init) ++ [c] := by
    rw [Text.trim_append_cons (by decide), hend]
    simp
  have hsame : ofPath (above ++ '/' :: name) = ofPath (Text.trim (above ++ '/' :: name)) := by
    rw [ofPath, ofPath, Text.trim_trim]
  rw [hsame, htrim, isFolder_ofPath_append hblank hslash] at h
  contradiction

/-- The folder of a path holds what the path leads to. -/
theorem isWithin_parent (h : Store.parent? p = some folder) :
    isWithin (ofPath folder) (ofPath p) = true := by
  obtain ⟨above, name, hname, rfl, rfl⟩ := Store.parent?_eq_some h
  cases hfile : isFolder (ofPath (above ++ '/' :: name)) with
  | false => exact isWithin_folder hname hfile
  | true =>
    -- Only blanks can follow the last slash of a path to a folder.
    have htrim : Text.trim (above ++ '/' :: name) = Text.trim (above ++ ['/']) := by
      rw [Text.trim_append_cons (by decide), Text.trim_append_cons (by decide),
        trimEnd_of_isFolder hname hfile]
      rfl
    have hsame : ofPath (above ++ '/' :: name) = ofPath (above ++ ['/']) := by
      rw [ofPath, ofPath, htrim]
    rw [hsame]
    exact isWithin_self _

end Address

namespace Store

variable {s t u : Store} {p q folder : Text} {bytes : Bytes}

theorem FoldersAdded.refl (s : Store) (p : Text) : s.FoldersAdded p s :=
  ⟨rfl, fun _ h => h, fun _ h => .inl h⟩

theorem foldersAdded_createFolder (s : Store) (p : Text) : s.FoldersAdded p (s.createFolder p) where
  files := rfl
  kept _ h := Index.mem_keys_insert.mpr (.inr h)
  added _ h := by
    rcases Index.mem_keys_insert.mp h with rfl | h
    · exact .inr (Address.isWithin_self _)
    · exact .inl h

namespace FoldersAdded

variable (h : s.FoldersAdded folder t)

include h

theorem mono (hp : Address.isWithin (Address.ofPath folder) (Address.ofPath p) = true) :
    s.FoldersAdded p t where
  files := h.files
  kept := h.kept
  added a ha := (h.added a ha).imp_right fun hfolder => Address.isWithin_trans hfolder hp

theorem read? (q : Text) : t.read? q = s.read? q := by
  rw [Store.read?, Store.read?, h.files]

theorem has_of_has (hq : s.has q = true) : t.has q = true := by
  unfold Store.has at hq ⊢
  dsimp only at hq ⊢
  split_ifs at hq ⊢
  · rw [Bool.or_eq_true, List.any_eq_true] at hq ⊢
    rw [h.files]
    exact hq.imp_right fun ⟨a, ha, hqa⟩ => ⟨a, h.kept a ha, hqa⟩
  · rwa [h.files]

theorem has_eq_of_not_isWithin (hq : ¬(Address.isFolder (Address.ofPath q) = true ∧
    Address.isWithin (Address.ofPath q) (Address.ofPath folder) = true)) : t.has q = s.has q := by
  unfold Store.has
  dsimp only
  by_cases hfolder : Address.isFolder (Address.ofPath q) = true
  · have hwithin := not_and.mp hq hfolder
    have hany : t.folders.keys.any (Address.isWithin (Address.ofPath q)) =
        s.folders.keys.any (Address.isWithin (Address.ofPath q)) := by
      rw [Bool.eq_iff_iff, List.any_eq_true, List.any_eq_true]
      constructor
      · rintro ⟨a, ha, hqa⟩
        rcases h.added a ha with hold | hadded
        · exact ⟨a, hold, hqa⟩
        · exact absurd (Address.isWithin_trans hqa hadded) hwithin
      · rintro ⟨a, ha, hqa⟩
        exact ⟨a, h.kept a ha, hqa⟩
    rw [h.files, hany]
  · rw [if_neg hfolder, if_neg hfolder, h.files]

/-- Only a folder that leads to the created one can be there where it was not before. -/
theorem has (q : Text) : t.has q = s.has q ∨
    s.has q = false ∧ t.has q = true ∧ Address.isFolder (Address.ofPath q) = true ∧
      Address.isWithin (Address.ofPath q) (Address.ofPath folder) = true := by
  by_cases hnew : Address.isFolder (Address.ofPath q) = true ∧
      Address.isWithin (Address.ofPath q) (Address.ofPath folder) = true
  · cases hs : s.has q with
    | true => exact .inl (h.has_of_has hs)
    | false =>
      cases ht : t.has q with
      | true => exact .inr ⟨rfl, rfl, hnew⟩
      | false => exact .inl rfl
  · exact .inl (h.has_eq_of_not_isWithin hnew)

end FoldersAdded

theorem SameButFile.refl (s : Store) (p : Text) : s.SameButFile p s :=
  ⟨rfl, fun _ _ => rfl⟩

theorem SameButFile.has (h : s.SameButFile p t) (q : Text) : t.has q = s.has q ∨
    Address.isWithin (Address.ofPath q) (Address.ofPath p) = true := by
  by_cases hwithin : Address.isWithin (Address.ofPath q) (Address.ofPath p) = true
  · exact .inr hwithin
  have hkeys : ∀ a, a ≠ Address.ofPath p → (a ∈ t.files.keys ↔ a ∈ s.files.keys) := by
    intro a ha
    rw [Index.mem_keys_iff, Index.mem_keys_iff, h.files a ha]
  have hany : t.files.keys.any (Address.isWithin (Address.ofPath q)) =
      s.files.keys.any (Address.isWithin (Address.ofPath q)) := by
    rw [Bool.eq_iff_iff, List.any_eq_true, List.any_eq_true]
    refine exists_congr fun a => and_congr_left fun hqa => hkeys a ?_
    rintro rfl
    exact hwithin hqa
  have hne : Address.ofPath q ≠ Address.ofPath p := by
    intro heq
    rw [heq] at hwithin
    exact hwithin (Address.isWithin_self _)
  left
  rw [Store.has, Store.has, h.folders, hany, Index.has, Index.has, h.files _ hne]

/-- Creating the folder of a path adds only folders that lead to it, even where that fails. -/
theorem foldersAdded_makeParent [Medium] (s : Store) (p : Text) :
    s.FoldersAdded p (s.makeParent p).2 := by
  unfold makeParent
  cases hparent : parent? p with
  | none => exact .refl s p
  | some folder =>
    have hwithin := Address.isWithin_parent hparent
    dsimp only
    split_ifs
    · exact .refl s p
    · exact .refl s p
    · split
      · next left hleft => exact (Medium.foldersAdded hleft).mono hwithin
      · exact (s.foldersAdded_createFolder folder).mono hwithin

end Store

namespace Medium

/-- Whether a file that cannot be written is left as it was. -/
def IsWhole [Medium] : Prop :=
  ∀ ⦃s t : Store⦄ ⦃p : Text⦄ ⦃bytes : Bytes⦄, unwritten? s p bytes = some t → t = s

/-- Whether no access fails. -/
structure IsReliable [Medium] : Prop where
  looks : ∀ s p, failsToLook s p = false
  reads : ∀ s p, failsToRead s p = false
  creates : ∀ s p, uncreated? s p = none
  writes : ∀ s p bytes, unwritten? s p bytes = none

theorem eq_reliable [m : Medium] (h : m.IsReliable) : m = reliable := by
  obtain ⟨looks, reads, creates, writes⟩ := h
  cases m
  unfold reliable
  congr
  · funext s p
    exact looks s p
  · funext s p
    exact reads s p
  · funext s p
    exact creates s p
  · funext s p bytes
    exact writes s p bytes

/-- A medium in which no file can be looked at or written where a folder lies, and no folder created where
a file lies. -/
@[reducible] def tree : Medium where
  failsToLook s p := !Address.isFolder (Address.ofPath p) && s.has (p ++ ['/'])
  failsToRead _ _ := false
  uncreated? s p := if s.has p.dropLast then some s else none
  unwritten? s p _ := if s.has (p ++ ['/']) then some s else none
  foldersAdded {s t p} h := by
    obtain ⟨-, heq⟩ := Option.ite_none_right_eq_some.mp h
    obtain rfl := Option.some.inj heq
    exact .refl s p
  sameButFile {s t p _} h := by
    obtain ⟨-, heq⟩ := Option.ite_none_right_eq_some.mp h
    obtain rfl := Option.some.inj heq
    exact .refl s p

end Medium

end NoteVault
