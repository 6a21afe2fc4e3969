import NoteVault.Note.Path
import NoteVault.Proofs.Text.Affix
import NoteVault.Proofs.Text.Trim

/-! The paths of notes that are left as they are when they are read as paths of notes once more, and
the folders that lead to a path. -/

namespace NoteVault.Path

def forward (c : Char) : Char := if c = '\\' then '/' else c

theorem dropHere_suffix (s : Text) : dropHere s <:+ s := by
  fun_induction dropHere s with
  | case1 s ih => exact ih.trans (List.suffix_append ['.', '/'] s)
  | case2 => exact List.suffix_rfl

theorem ofNote_eq (s : Text) :
    ofNote s = dropHere (((Text.trim s).map forward).dropWhile (· == '/')) := rfl

theorem ofNote_suffix (s : Text) : ofNote s <:+ (Text.trim s).map forward :=
  (dropHere_suffix _).trans (List.dropWhile_suffix _)

theorem trim_sublist (s : Text) : (Text.trim s).Sublist s := by
  have htail : (Text.trim s).Sublist (Text.trimStart s) := (List.rdropWhile_prefix _ _).sublist
  exact htail.trans (List.dropWhile_sublist _)

theorem ofNote_sublist (s : Text) : (ofNote s).Sublist (s.map forward) :=
  (ofNote_suffix s).sublist.trans ((trim_sublist s).map forward)

theorem length_ofNote_le (s : Text) : (ofNote s).length ≤ s.length := by
  simpa using (ofNote_sublist s).length_le

theorem map_forward_ofNote (s : Text) : (ofNote s).map forward = ofNote s := by
  have hforward : ∀ c ∈ ofNote s, forward c = c := by
    intro c hc
    obtain ⟨d, -, rfl⟩ := List.mem_map.mp ((ofNote_suffix s).subset hc)
    by_cases hd : d = '\\'
    · simp [forward, hd]
    · simp [forward, hd]
  simpa using List.map_congr_left (g := id) hforward

theorem getLast?_ofNote (s : Text) : ∀ c ∈ (ofNote s).getLast?, Text.isBlank c = false := by
  intro c hc
  obtain ⟨init, hinit⟩ := List.getLast?_eq_some_iff.mp hc
  obtain ⟨lead, hlead⟩ := ofNote_suffix s
  rw [hinit] at hlead
  have hmap : ((Text.trim s).map forward).getLast? = some c := by
    rw [← hlead]
    simp
  rw [List.getLast?_map, Option.map_eq_some_iff] at hmap
  obtain ⟨d, hd, rfl⟩ := hmap
  have hblank := (Text.trim_eq_self_iff.mp (Text.trim_trim s)).2 d hd
  unfold forward
  split_ifs
  · decide
  · exact hblank

variable {p : Text}

/-- A path that two readings give back is given back by one. -/
theorem ofNote_of_ofNote_ofNote (h : ofNote (ofNote p) = p) : ofNote p = p := by
  have hmap : p.map forward = p := by
    have hp := map_forward_ofNote (ofNote p)
    rwa [h] at hp
  have hsub := ofNote_sublist p
  rw [hmap] at hsub
  have hle := length_ofNote_le (ofNote p)
  rw [h] at hle
  exact hsub.eq_of_length_le hle

theorem trim_of_ofNote (h : ofNote p = p) : Text.trim p = p := by
  have hle := (ofNote_suffix p).length_le
  rw [h] at hle
  simp only [List.length_map] at hle
  exact (trim_sublist p).eq_of_length_le hle

theorem dropWhile_of_ofNote (h : ofNote p = p) : p.dropWhile (· == '/') = p := by
  have htrim := trim_of_ofNote h
  have hdrop := ofNote_eq p
  rw [h, htrim] at hdrop
  have hsuffix := List.dropWhile_suffix (· == '/') (l := p.map forward)
  have hhere := dropHere_suffix ((p.map forward).dropWhile (· == '/'))
  rw [← hdrop] at hhere
  have hlen : (p.map forward).length = p.length := by simp
  have hself : (p.map forward).dropWhile (· == '/') = p.map forward := by
    have hle := hhere.length_le
    exact hsuffix.eq_of_length_le (by omega)
  have hp : p = p.map forward := by
    rw [hself] at hhere
    exact hhere.eq_of_length_le (by omega)
  rw [← hp] at hself
  exact hself

/-- Whether a path is the one under which its note is listed: it is left as it is, and has no empty
steps. -/
structure IsNormal (p : Text) : Prop where
  stable : ofNote p = p
  steps : [] ∉ Text.pieces (· == '/') p

instance (p : Text) : Decidable (IsNormal p) :=
  decidable_of_iff (ofNote p = p ∧ [] ∉ Text.pieces (· == '/') p)
    ⟨fun h => ⟨h.1, h.2⟩, fun h => ⟨h.stable, h.steps⟩⟩

theorem IsNormal.ne_nil (h : IsNormal p) : p ≠ [] := by
  rintro rfl
  exact h.steps (by simp [Text.pieces])

/-- A folder leads to a path exactly if it is the folder of the path or leads to that. -/
theorem folder_prefix_iff {p f : Text} (hf : f ≠ []) :
    f ++ ['/'] <+: p ↔ f = folder p ∨ f ++ ['/'] <+: folder p := by
  cases hcut : Text.cutLast? '/' p with
  | none =>
    have hnot := Text.cutLast?_eq_none_iff.mp hcut
    have hfolder : folder p = [] := by
      rw [folder, hcut]
      rfl
    have hno : ¬f ++ ['/'] <+: p := fun h => hnot (h.subset (by simp))
    simp [hfolder, hf, hno]
  | some sides =>
    obtain ⟨l, r⟩ := sides
    obtain ⟨rfl, hr⟩ := Text.cutLast?_eq_some hcut
    have hfolder : folder (l ++ '/' :: r) = l := by
      rw [folder, hcut]
      rfl
    rw [hfolder]
    constructor
    · rintro ⟨m, hm⟩
      rw [List.append_assoc, List.singleton_append] at hm
      -- The slash behind the folder is the last one of the path or an earlier one.
      rcases List.append_eq_append_iff.mp hm with ⟨x, rfl, hx⟩ | ⟨x, rfl, hx⟩
      · cases x with
        | nil => exact .inl (List.append_nil f).symm
        | cons d x =>
          obtain rfl : '/' = d := (List.cons.inj hx).1
          exact .inr ⟨x, by simp⟩
      · cases x with
        | nil => exact .inl (List.append_nil l)
        | cons d x =>
          have hmem : '/' ∈ r := by simp [(List.cons.inj hx).2]
          exact absurd hmem hr
    · rintro (rfl | ⟨m, rfl⟩)
      · exact ⟨r, by simp⟩
      · exact ⟨m ++ '/' :: r, by simp⟩

end NoteVault.Path
