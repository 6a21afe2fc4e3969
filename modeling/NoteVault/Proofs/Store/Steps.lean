import NoteVault.Proofs.Store.Address
import NoteVault.Proofs.Text.Pieces

/-! Addresses by their steps. A path leads to its steps that are not empty, and what lies in a folder
begins with the steps of that folder. -/

namespace NoteVault

namespace Address

/-- The steps of a path, without the empty ones. -/
def steps (p : Text) : List Text :=
  (Text.pieces (· == '/') p).filter fun step => !step.isEmpty

theorem steps_append (s t : Text) : steps (s ++ '/' :: t) = steps s ++ steps t := by
  simp only [steps, Text.pieces_eq_splitOnP]
  rw [List.splitOnP_append_cons _ _ (by simp), List.filter_append]

theorem steps_dropWhile (s : Text) : steps (s.dropWhile (· == '/')) = steps s := by
  induction s with
  | nil => rfl
  | cons c s ih =>
    by_cases hc : c = '/'
    · have hs : steps (c :: s) = steps s := by
        rw [hc]
        exact steps_append [] s
      rw [hs, ← ih]
      simp [hc]
    · simp [hc]

theorem not_mem_of_mem_steps {s t : Text} (h : t ∈ steps s) : '/' ∉ t :=
  Text.not_mem_of_mem_pieces (List.mem_of_mem_filter h)

theorem dropWhile_join_steps (p : Text) :
    (Text.join ['/'] (steps p)).dropWhile (· == '/') = Text.join ['/'] (steps p) := by
  cases hts : steps p with
  | nil => rfl
  | cons t ts =>
    have hmem : t ∈ steps p := hts ▸ List.mem_cons_self
    have hne : t ≠ [] := by simpa using List.of_mem_filter hmem
    obtain ⟨c, s, rfl⟩ := List.exists_cons_of_ne_nil hne
    have hc : c ≠ '/' := fun h => not_mem_of_mem_steps hmem (h ▸ List.mem_cons_self)
    cases ts <;> simp [Text.join, hc]

theorem join_steps_inj {xs ys : List Text} (hx : xs ≠ []) (hy : ys ≠ []) (hxs : ∀ t ∈ xs, '/' ∉ t)
    (hys : ∀ t ∈ ys, '/' ∉ t) (h : Text.join ['/'] xs = Text.join ['/'] ys) : xs = ys := by
  rw [← Text.pieces_join hx hxs, h, Text.pieces_join hy hys]

theorem steps_eq_nil_iff {s : Text} : steps s = [] ↔ s.dropWhile (· == '/') = [] := by
  constructor
  · intro h
    rw [← steps_dropWhile] at h
    cases hs : s.dropWhile (· == '/') with
    | nil => rfl
    | cons c t =>
      have hc : c ≠ '/' := by
        have hhead := List.head?_dropWhile_not (· == '/') s
        simpa [hs] using hhead
      obtain ⟨u, us, hus⟩ := List.exists_cons_of_ne_nil (List.splitOnP_ne_nil (· == '/') t)
      rw [hs, steps, Text.pieces_eq_splitOnP, List.splitOnP_cons_eq_if_modifyHead] at h
      simp [hc, hus] at h
  · intro h
    rw [← steps_dropWhile, h]
    rfl

/-- A path leads to its steps, and to a folder if it ends in a slash. -/
theorem ofPath_eq (p : Text) :
    ofPath p = if steps (Text.trim p) = [] then ['/']
      else Text.join ['/'] (steps (Text.trim p)) ++
        if (Text.trim p).getLast? = some '/' then ['/'] else [] := by
  unfold ofPath
  generalize Text.trim p = q
  by_cases hnil : q.dropWhile (· == '/') = []
  · simp [hnil, steps_eq_nil_iff.mpr hnil]
  · have hsteps : steps q ≠ [] := mt steps_eq_nil_iff.mp hnil
    have hlast : (q.dropWhile (· == '/')).getLast? = q.getLast? := by
      obtain ⟨t, ht⟩ := List.dropWhile_suffix (· == '/') (l := q)
      have hright := List.getLast?_append_of_ne_nil t hnil
      rw [ht] at hright
      exact hright.symm
    have hjoin := steps_dropWhile q
    rw [if_neg hsteps, ← hjoin]
    simp [hnil, hlast, steps]

theorem isFolder_append_slash (s : Text) : isFolder (s ++ ['/']) = true := by
  simp [isFolder, Text.endsIn]

/-- A path to a file does not end in a slash. -/
theorem exists_last_of_not_isFolder {p : Text} (h : isFolder (ofPath p) = false) :
    ∃ c, (Text.trim p).getLast? = some c ∧ c ≠ '/' := by
  rw [ofPath_eq] at h
  by_cases hnil : steps (Text.trim p) = []
  · rw [if_pos hnil] at h
    have hslash := isFolder_append_slash []
    simp [h] at hslash
  · rw [if_neg hnil] at h
    cases hlast : (Text.trim p).getLast? with
    | none =>
      rw [List.getLast?_eq_none_iff.mp hlast] at hnil
      simp [steps, Text.pieces] at hnil
    | some c =>
      refine ⟨c, rfl, ?_⟩
      intro hc
      rw [hlast, hc, if_pos rfl, isFolder_append_slash] at h
      contradiction

theorem ofPath_of_not_isFolder {p : Text} (h : isFolder (ofPath p) = false) :
    ofPath p = Text.join ['/'] (steps (Text.trim p)) := by
  obtain ⟨c, hlast, hc⟩ := exists_last_of_not_isFolder h
  have hnil : steps (Text.trim p) ≠ [] := by
    intro hnil
    rw [ofPath_eq, if_pos hnil] at h
    have hslash := isFolder_append_slash []
    simp [h] at hslash
  rw [ofPath_eq, if_neg hnil, hlast]
  simp [hc]

theorem ofPath_append_slash (s : Text) :
    ofPath (s ++ ['/']) = if steps (Text.trimStart s) = [] then ['/']
      else Text.join ['/'] (steps (Text.trimStart s)) ++ ['/'] := by
  have htrim : Text.trim (s ++ ['/']) = Text.trimStart s ++ ['/'] :=
    Text.trim_append_cons (by decide) s []
  have hsteps : steps (Text.trimStart s ++ ['/']) = steps (Text.trimStart s) := by
    rw [steps_append]
    simp [steps, Text.pieces]
  rw [ofPath_eq, htrim, hsteps]
  simp

theorem isWithin_append (folder s : Text) : isWithin folder (folder ++ s) = true := by
  simp [isWithin, Text.beginsWith]

/-- The folder of a file holds the file. -/
theorem isWithin_folder {folder name : Text} (hname : '/' ∉ name)
    (h : isFolder (ofPath (folder ++ '/' :: name)) = false) :
    isWithin (ofPath (folder ++ ['/'])) (ofPath (folder ++ '/' :: name)) = true := by
  have htrim : Text.trim (folder ++ '/' :: name) = Text.trimStart folder ++ '/' :: Text.trimEnd name :=
    Text.trim_append_cons (by decide) folder name
  have hne : Text.trimEnd name ≠ [] := by
    intro hnil
    obtain ⟨c, hlast, hc⟩ := exists_last_of_not_isFolder h
    rw [htrim, hnil] at hlast
    simp only [List.getLast?_append, List.getLast?_singleton, Option.some_or, Option.some.injEq] at hlast
    exact hc hlast.symm
  have hslash : '/' ∉ Text.trimEnd name := by
    intro hmem
    have hsub : (Text.trimEnd name).Sublist name := List.rdropWhile_prefix _ _ |>.sublist
    exact hname (hsub.subset hmem)
  have hlast : steps (Text.trimEnd name) = [Text.trimEnd name] := by
    rw [steps, Text.pieces_eq_splitOnP, List.splitOnP_eq_singleton]
    · simp [hne]
    · intro c hc
      have hcs : c ≠ '/' := fun heq => hslash (heq ▸ hc)
      simpa using hcs
  rw [ofPath_of_not_isFolder h, htrim, steps_append, hlast, ofPath_append_slash]
  by_cases hnil : steps (Text.trimStart folder) = []
  · simp [hnil, isWithin]
  · rw [if_neg hnil, Text.join_append hnil (List.cons_ne_nil _ _)]
    simpa using isWithin_append (Text.join ['/'] (steps (Text.trimStart folder)) ++ ['/'])
      (Text.join ['/'] [Text.trimEnd name])

end Address

end NoteVault
