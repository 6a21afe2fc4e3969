import NoteVault.Proofs.Note.Path

/-! Paths in a store and the root of a vault. The path inside of the vault is what follows the root, and it
gives back the path from which a path in the store was put together. The root is dropped from any path that
begins with it, even where the path goes on inside of a step. -/

namespace NoteVault.Path

variable {vault p root rest : Text}

/-! ### Dropping the root -/

theorem relative_of_append (h : p.dropWhile (· == '/') = trimSlashes vault ++ rest) :
    relative vault p = rest.dropWhile (· == '/') := by
  unfold relative
  dsimp only
  split_ifs with hroot
  · have hrest : p.dropWhile (· == '/') = rest := by
      rw [h, List.isEmpty_iff.mp hroot, List.nil_append]
    rw [← hrest, List.dropWhile_idempotent]
  · rw [h, Text.after?_append]

theorem relative_of_not_prefix (h : ¬trimSlashes vault <+: p.dropWhile (· == '/')) :
    relative vault p = p.dropWhile (· == '/') := by
  unfold relative
  dsimp only
  split_ifs
  · rfl
  · split
    · next rest hafter =>
      rw [Text.eq_append_of_after? hafter] at h
      exact absurd (List.prefix_append _ rest) h
    · rfl

theorem trimSlashes_eq_dropWhile (s : Text) :
    trimSlashes s = (Text.dropTail (· == '/') s).dropWhile (· == '/') :=
  Text.dropTail_dropWhile (· == '/') s

theorem trimSlashes_ne_nil {s : Text} (h : Text.dropTail (· == '/') s ≠ []) : trimSlashes s ≠ [] := by
  rw [trimSlashes_eq_dropWhile]
  intro hnil
  have hlast := List.rdropWhile_last_not (· == '/') s h
  exact hlast (List.dropWhile_eq_nil_iff.mp hnil _ (List.getLast_mem h))

theorem dropWhile_trimSlashes_append (h : trimSlashes vault ≠ []) (rest : Text) :
    (trimSlashes vault ++ rest).dropWhile (· == '/') = trimSlashes vault ++ rest := by
  have hself : (trimSlashes vault).dropWhile (· == '/') = trimSlashes vault := by
    rw [trimSlashes_eq_dropWhile, List.dropWhile_idempotent]
  rw [List.dropWhile_append, hself, if_neg (by simpa using h)]

/-- The path inside of a vault of a path that was put together from it. -/
theorem relative_join (vault rel : Text) :
    relative vault (join vault rel) = rel.dropWhile (· == '/') := by
  by_cases hroot : Text.dropTail (· == '/') vault = []
  · have hjoin : join vault rel = rel.dropWhile (· == '/') := by simp [join, hroot]
    have hdrop : (join vault rel).dropWhile (· == '/') =
        trimSlashes vault ++ rel.dropWhile (· == '/') := by
      rw [hjoin, List.dropWhile_idempotent, trimSlashes_eq_dropWhile, hroot]
      rfl
    rw [relative_of_append hdrop, List.dropWhile_idempotent]
  · have hjoin : join vault rel =
        Text.dropTail (· == '/') vault ++ '/' :: rel.dropWhile (· == '/') := by simp [join, hroot]
    have hdrop : (join vault rel).dropWhile (· == '/') =
        trimSlashes vault ++ '/' :: rel.dropWhile (· == '/') := by
      rw [hjoin, List.dropWhile_append, ← trimSlashes_eq_dropWhile, if_neg]
      simpa using trimSlashes_ne_nil hroot
    rw [relative_of_append hdrop]
    simp [List.dropWhile_idempotent]

/-! ### Where the root ends -/

/-- What follows a folder in a path that is the folder or lies below it; any other path is kept. -/
def below (root p : Text) : Text :=
  if p = root ∨ root ++ ['/'] <+: p then (p.drop root.length).dropWhile (· == '/') else p

/-- Whether the path inside of a vault is what follows the root of the vault as a folder. -/
def StripsFolder (vault p : Text) : Prop :=
  relative vault p = below (trimSlashes vault) (p.dropWhile (· == '/'))

/-- Whether a path begins with a root that ends inside of a step of the path. -/
def CutsStep (root p : Text) : Prop := root ≠ [] ∧ ∃ c s, p = root ++ c :: s ∧ c ≠ '/'

theorem below_of_not_prefix (h : ¬root <+: p) : below root p = p := by
  refine if_neg ?_
  rintro (rfl | hslash)
  · exact h List.prefix_rfl
  · exact h ((List.prefix_append root ['/']).trans hslash)

theorem below_append_slash (root rest : Text) :
    below root (root ++ '/' :: rest) = rest.dropWhile (· == '/') := by
  have hslash : root ++ ['/'] <+: root ++ '/' :: rest := ⟨rest, by simp⟩
  rw [below, if_pos (.inr hslash), List.drop_left, List.dropWhile_cons_of_pos (by rfl)]

theorem below_self (root : Text) : below root root = [] := by
  rw [below, if_pos (.inl rfl), List.drop_length, List.dropWhile_nil]

theorem below_append_cons {c : Char} (hc : c ≠ '/') (root rest : Text) :
    below root (root ++ c :: rest) = root ++ c :: rest := by
  refine if_neg ?_
  rintro (hself | hslash)
  · simp at hself
  · rw [List.prefix_append_right_inj, List.cons_prefix_cons] at hslash
    exact hc hslash.1.symm

theorem StripsFolder.not_cutsStep (h : StripsFolder vault p) :
    ¬CutsStep (trimSlashes vault) (p.dropWhile (· == '/')) := by
  rintro ⟨hroot, c, s, hp, hc⟩
  have hrest : relative vault p = c :: s := by
    rw [relative_of_append hp, List.dropWhile_cons_of_neg (by simpa using hc)]
  rw [StripsFolder, hrest, hp, below_append_cons hc] at h
  exact hroot (List.self_eq_append_left.mp h)

theorem stripsFolder_of_not_cutsStep (h : ¬CutsStep (trimSlashes vault) (p.dropWhile (· == '/'))) :
    StripsFolder vault p := by
  by_cases hprefix : trimSlashes vault <+: p.dropWhile (· == '/')
  · obtain ⟨rest, hp⟩ := hprefix
    rw [StripsFolder, relative_of_append hp.symm, ← hp]
    cases rest with
    | nil => rw [List.append_nil, below_self, List.dropWhile_nil]
    | cons c rest =>
      by_cases hc : c = '/'
      · rw [hc, below_append_slash, List.dropWhile_cons_of_pos (by rfl)]
      · -- The path goes on inside of a step, so that the root is empty.
        have hroot : trimSlashes vault = [] := by
          by_contra hne
          exact h ⟨hne, c, rest, hp.symm, hc⟩
        rw [below_append_cons hc, hroot, List.nil_append,
          List.dropWhile_cons_of_neg (by simpa using hc)]
  · rw [StripsFolder, relative_of_not_prefix hprefix, below_of_not_prefix hprefix]

/-- The path inside of a vault gives back what a path in the store was put together from, and it is what
follows the root as a folder exactly if the root does not end inside of a step. -/
theorem stripsFolder_iff_not_cutsStep (vault rel p : Text) :
    relative vault (join vault rel) = rel.dropWhile (· == '/') ∧
      (StripsFolder vault p ↔ ¬CutsStep (trimSlashes vault) (p.dropWhile (· == '/'))) :=
  ⟨relative_join vault rel, StripsFolder.not_cutsStep, stripsFolder_of_not_cutsStep⟩

/-- A folder beside the vault loses the part of its name that is the name of the vault. -/
theorem not_stripsFolder_sibling :
    (relative "vault" "vault2/a.md" = "2/a.md".toList ∧
      below "vault" "vault2/a.md" = "vault2/a.md".toList) ∧
      ¬∀ vault rel p, relative vault (join vault rel) = rel.dropWhile (· == '/') ∧
        StripsFolder vault p := by
  refine ⟨by decide, fun h => ?_⟩
  have hstrips := (h "vault" [] "vault2/a.md").2
  exact absurd hstrips (by unfold StripsFolder; decide)

end NoteVault.Path
