import NoteVault.Proofs.Note.Root
import NoteVault.Proofs.Store.Steps
import NoteVault.Proofs.Vault.Writing

/-! Where the paths of a vault lead. Normal paths lead to different files, and in a vault whose folder
is its own address the list of files gives them back. -/

namespace NoteVault.Vault

open Address

variable {v : Vault} {p q : Text}

def rootSteps (v : Vault) : List Text :=
  steps (Text.trimStart (Text.dropTail (· == '/') v.root))

theorem full_append {c : Char} (hc : c ≠ '/') (v : Vault) (p : Text) :
    ∃ r, v.full (p ++ [c]) = r ++ [c] := by
  obtain ⟨r, hr⟩ := Text.exists_dropWhile_append (p := (· == '/')) (c := c) (by simpa using hc) p
  unfold full Path.join
  by_cases hroot : (Text.dropTail (· == '/') v.root).isEmpty = true
  · exact ⟨r, by simp [hroot, hr]⟩
  · exact ⟨Text.dropTail (· == '/') v.root ++ '/' :: r, by simp [hroot, hr]⟩

theorem exists_address_append {c : Char} (hblank : Text.isBlank c = false) (hslash : c ≠ '/')
    (v : Vault) (p : Text) : ∃ r, v.address (p ++ [c]) = r ++ [c] := by
  obtain ⟨r, hr⟩ := full_append hslash v p
  rw [address, hr]
  exact exists_ofPath_append hblank hslash r

theorem not_isFolder_append {c : Char} (hblank : Text.isBlank c = false) (hslash : c ≠ '/')
    (v : Vault) (p : Text) : isFolder (v.address (p ++ [c])) = false := by
  obtain ⟨r, hr⟩ := full_append hslash v p
  rw [address, hr]
  exact isFolder_ofPath_append hblank hslash r

/-- A path to a file leads to its steps below those of the root. -/
theorem address_eq_join (hp : Path.ofNote p = p) (hfile : isFolder (v.address p) = false) :
    v.address p = Text.join ['/'] (v.rootSteps ++ steps p) := by
  have htrim := Path.trim_of_ofNote hp
  have hdrop := Path.dropWhile_of_ofNote hp
  have hsteps : steps (Text.trim (v.full p)) = v.rootSteps ++ steps p := by
    unfold full Path.join rootSteps
    rw [hdrop]
    by_cases hroot : Text.dropTail (· == '/') v.root = []
    · simp [hroot, htrim, steps, Text.pieces, Text.trimStart]
    · have hend : Text.trimEnd p = p :=
        Text.trimEnd_eq_self_iff.mpr (Text.trim_eq_self_iff.mp htrim).2
      rw [if_neg (by simpa using hroot), Text.trim_append_cons (by decide), hend, steps_append]
  rw [← hsteps]
  exact ofPath_of_not_isFolder hfile

theorem steps_ne_nil (hp : Path.ofNote p = p) (hne : p ≠ []) : steps p ≠ [] := by
  intro hnil
  have hdrop := steps_eq_nil_iff.mp hnil
  rw [Path.dropWhile_of_ofNote hp] at hdrop
  exact hne hdrop

theorem steps_eq_pieces (hp : Path.IsNormal p) : steps p = Text.pieces (· == '/') p := by
  rw [steps, List.filter_eq_self]
  intro t ht
  have hne : t ≠ [] := fun hnil => hp.steps (hnil ▸ ht)
  simpa using hne

theorem not_isFolder_of_isNormal (v : Vault) (hp : Path.IsNormal p) :
    isFolder (v.address p) = false := by
  obtain ⟨init, c, rfl⟩ : ∃ init c, p = init ++ [c] :=
    ⟨_, _, (List.dropLast_append_getLast hp.ne_nil).symm⟩
  have hblank : Text.isBlank c = false :=
    (Text.trim_eq_self_iff.mp (Path.trim_of_ofNote hp.stable)).2 c (by simp)
  have hslash : c ≠ '/' := by
    rintro rfl
    apply hp.steps
    rw [Text.pieces_eq_splitOnP, List.splitOnP_append_cons _ _ (by simp)]
    simp
  exact not_isFolder_append hblank hslash v init

/-- Different normal paths lead to different files. -/
theorem eq_of_address_eq (hp : Path.IsNormal p) (hq : Path.IsNormal q)
    (h : v.address p = v.address q) : p = q := by
  have hpne := steps_ne_nil hp.stable hp.ne_nil
  have hqne := steps_ne_nil hq.stable hq.ne_nil
  have hslash : ∀ {r : Text}, ∀ t ∈ v.rootSteps ++ steps r, '/' ∉ t := by
    intro r t ht
    rcases List.mem_append.mp ht with ht | ht
    · exact not_mem_of_mem_steps ht
    · exact not_mem_of_mem_steps ht
  rw [address_eq_join hp.stable (v.not_isFolder_of_isNormal hp),
    address_eq_join hq.stable (v.not_isFolder_of_isNormal hq)] at h
  have hlist := join_steps_inj (by simp [hpne]) (by simp [hqne]) hslash hslash h
  have hsteps := List.append_cancel_left hlist
  rw [steps_eq_pieces hp, steps_eq_pieces hq] at hsteps
  rw [← Text.join_pieces p, hsteps, Text.join_pieces]

theorem isNormal_ledgerPath : Path.IsNormal ledgerPath := by decide

theorem not_isLedger_of_isNormal (hp : Path.IsNormal p) (hne : p ≠ ledgerPath) : ¬v.IsLedger p :=
  fun h => hne (eq_of_address_eq hp isNormal_ledgerPath h)

section Folder

variable (hroot : Address.ofPath v.folder = v.folder)

include hroot

/-- The steps of the root of a vault are those of the folder that is listed. -/
theorem join_rootSteps :
    v.rootSteps = [] ∧ Path.trimSlashes v.root = [] ∨
      v.rootSteps ≠ [] ∧ Text.join ['/'] v.rootSteps = Path.trimSlashes v.root := by
  have hdrop := (Path.trimSlashes_eq_dropWhile v.root).symm
  have hcases : v.rootSteps = steps (Path.trimSlashes v.root) ∨
      v.rootSteps = steps (Text.trimStart (Path.trimSlashes v.root)) := by
    rw [rootSteps, ← hdrop]
    cases hs : Text.dropTail (· == '/') v.root with
    | nil => exact .inl rfl
    | cons c s =>
      by_cases hc : c = '/'
      · left
        rw [steps_dropWhile, hc]
        rfl
      · right
        simp [hc]
  by_cases hnil : Path.trimSlashes v.root = []
  · left
    refine ⟨?_, hnil⟩
    rw [hnil] at hcases
    simpa [steps, Text.pieces, Text.trimStart] using hcases
  · right
    have hfolder : v.folder = Path.trimSlashes v.root ++ ['/'] := by
      rw [folder]
      simp [hnil]
    rw [hfolder, ofPath_append_slash] at hroot
    have hne : steps (Text.trimStart (Path.trimSlashes v.root)) ≠ [] := by
      intro hsteps
      rw [if_pos hsteps] at hroot
      have hlen := congrArg List.length hroot
      have hpos := List.length_pos_iff.mpr hnil
      simp only [List.length_cons, List.length_append, List.length_nil] at hlen
      omega
    rw [if_neg hne] at hroot
    have hjoin := List.append_cancel_right hroot
    have hpieces := Text.pieces_join hne fun t ht => not_mem_of_mem_steps ht
    have hsame : steps (Path.trimSlashes v.root) = steps (Text.trimStart (Path.trimSlashes v.root)) := by
      rw [hjoin] at hpieces
      rw [steps, hpieces, steps, List.filter_filter]
      simp
    rw [hsame, or_self] at hcases
    rw [hcases]
    exact ⟨hne, hjoin⟩

theorem address_eq_append (hp : Path.ofNote p = p) (hne : p ≠ [])
    (hfile : isFolder (v.address p) = false) :
    Path.trimSlashes v.root = [] ∧ v.address p = Text.join ['/'] (steps p) ∨
      Path.trimSlashes v.root ≠ [] ∧
        v.address p = Path.trimSlashes v.root ++ '/' :: Text.join ['/'] (steps p) := by
  rw [address_eq_join hp hfile]
  rcases join_rootSteps hroot with ⟨hnil, hempty⟩ | ⟨hsteps, hjoin⟩
  · left
    simp [hnil, hempty]
  · right
    rw [Text.join_append hsteps (steps_ne_nil hp hne), hjoin]
    refine ⟨?_, rfl⟩
    intro hempty
    rw [hempty] at hjoin
    have hpieces := Text.pieces_join hsteps fun t ht => not_mem_of_mem_steps ht
    rw [hjoin] at hpieces
    have hmem : [] ∈ v.rootSteps := by simp [← hpieces, Text.pieces]
    simpa using List.of_mem_filter hmem

theorem isWithin_folder (hp : Path.ofNote p = p) (hne : p ≠ [])
    (hfile : isFolder (v.address p) = false) :
    isWithin (Address.ofPath v.folder) (v.address p) = true := by
  rw [hroot, folder]
  rcases address_eq_append hroot hp hne hfile with ⟨hempty, -⟩ | ⟨hempty, haddress⟩
  · simp [hempty, isWithin]
  · rw [haddress]
    simpa [hempty] using isWithin_append (Path.trimSlashes v.root ++ ['/']) (Text.join ['/'] (steps p))

/-- The path under which a file is listed has the steps of the path that leads to it. -/
theorem relative_address (hp : Path.ofNote p = p) (hne : p ≠ [])
    (hfile : isFolder (v.address p) = false) :
    Path.relative v.root (v.address p) = Text.join ['/'] (steps p) := by
  have hsteps := dropWhile_join_steps p
  rcases address_eq_append hroot hp hne hfile with ⟨hempty, haddress⟩ | ⟨hempty, haddress⟩
  · have hdrop : (v.address p).dropWhile (· == '/') =
        Path.trimSlashes v.root ++ Text.join ['/'] (steps p) := by
      rw [haddress, hsteps, hempty, List.nil_append]
    rw [Path.relative_of_append hdrop, hsteps]
  · have hdrop : (v.address p).dropWhile (· == '/') =
        Path.trimSlashes v.root ++ '/' :: Text.join ['/'] (steps p) := by
      rw [haddress, Path.dropWhile_trimSlashes_append hempty]
    rw [Path.relative_of_append hdrop, List.dropWhile_cons_of_pos (by rfl), hsteps]

theorem relative_address_of_isNormal (hp : Path.IsNormal p) :
    Path.relative v.root (v.address p) = p := by
  rw [relative_address hroot hp.stable hp.ne_nil (v.not_isFolder_of_isNormal hp), steps_eq_pieces hp,
    Text.join_pieces]

end Folder

end NoteVault.Vault
