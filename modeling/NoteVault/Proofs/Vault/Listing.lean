import NoteVault.Proofs.Repeats
import NoteVault.Proofs.Text.Letter
import NoteVault.Proofs.Text.Order
import NoteVault.Proofs.Vault.Written

/-! The list of the notes of a vault: which paths are in it, each of them once, what is listed there, and
what is added to it by writing a note. -/

namespace NoteVault

theorem mapM_eq_ok_iff {ε α β : Type} {f : α → Except ε β} {P : α → Prop} {g : α → β}
    (h : ∀ a b, f a = .ok b ↔ P a ∧ b = g a) {l : List α} {r : List β} :
    l.mapM f = .ok r ↔ (∀ a ∈ l, P a) ∧ r = l.map g := by
  induction l generalizing r with
  | nil =>
    have hnil : (pure [] : Except ε (List β)) = .ok r ↔ r = [] := by
      simp [pure, Except.pure, eq_comm]
    simpa using hnil
  | cons a l ih =>
    rw [List.mapM_cons, List.forall_mem_cons, List.map_cons]
    constructor
    · intro hcons
      cases ha : f a with
      | error e => simp [ha, bind, Except.bind] at hcons
      | ok b =>
        cases hl : l.mapM f with
        | error e => simp [ha, hl, bind, Except.bind] at hcons
        | ok bs =>
          obtain ⟨hP, rfl⟩ := (h a b).mp ha
          obtain ⟨hall, rfl⟩ := ih.mp hl
          have hr : g a :: l.map g = r := by
            simpa [ha, hl, bind, Except.bind, pure, Except.pure] using hcons
          exact ⟨⟨hP, hall⟩, hr.symm⟩
    · rintro ⟨⟨hP, hall⟩, rfl⟩
      have ha := (h a (g a)).mpr ⟨hP, rfl⟩
      have hl := ih.mpr ⟨hall, rfl⟩
      simp [ha, hl, bind, Except.bind, pure, Except.pure]

namespace Text

theorem pairwise_mergeSort_order (ts : List Text) :
    (ts.mergeSort fun a b => order a b != .gt).Pairwise fun a b => order a b ≠ .gt := by
  have hsorted : (ts.mergeSort fun a b => order a b != .gt).Pairwise
      fun a b => (order a b != .gt) = true := by
    apply List.pairwise_mergeSort
    · intro a b c hab hbc
      simp only [bne_iff_ne] at hab hbc ⊢
      exact order_ne_gt_trans hab hbc
    · intro a b
      rw [← order_swap a b]
      cases order a b <;> rfl
  simpa only [bne_iff_ne] using hsorted

end Text

namespace Vault

open Address

variable {v w : Vault} {q k ext : Text} {n m : Note} {notes : List Note} {bytes : Bytes} {now : Int}

theorem mem_listPaths : q ∈ v.listPaths ext ↔
    (∃ a ∈ v.store.filesWithin v.folder, Path.relative v.root a = q) ∧
      Path.isReserved q = false ∧ Path.hasExtension ext q = true := by
  simp only [listPaths, mem_eraseReps, List.mem_mergeSort, List.mem_filter, List.mem_map,
    Bool.and_eq_true, Bool.not_eq_true']

/-- Paths that are met in order and without repetition are listed as they are met. -/
theorem listPaths_of_pairwise {ps : List Text}
    (hmet : ((v.store.filesWithin v.folder).map (Path.relative v.root)).filter
      (fun p => !Path.isReserved p && Path.hasExtension ext p) = ps)
    (hordered : ps.Pairwise fun a b => Text.order a b ≠ .gt) (hreps : ps.eraseReps = ps) :
    v.listPaths ext = ps := by
  have hsorted : ps.Pairwise fun a b => (Text.order a b != .gt) = true := by
    simpa only [bne_iff_ne] using hordered
  rw [listPaths, hmet, List.mergeSort_of_pairwise hsorted, hreps]

theorem nodup_listPaths (v : Vault) (ext : Text) : (v.listPaths ext).Nodup :=
  nodup_eraseReps (fun _ _ => Text.eq_of_order_ne_gt) (Text.pairwise_mergeSort_order _)

/-- The note that is listed under a path of a file. -/
def listed (v : Vault) (q : Text) : Note :=
  Note.ofMarkdown q (Utf8.decode ((v.file? q).getD [])) (v.ledger.stat q)

theorem listedNote_eq_ok_iff {note : Note} : v.listedNote v.ledger q = .ok note ↔
    (v.file? q).isSome = true ∧ note = v.listed q := by
  unfold listedNote listed file?
  cases v.store.read? (v.full q) with
  | none => simp
  | some bytes => simp [eq_comm]

/-- The notes are listed if and only if there is a file at each of the paths. -/
theorem listNotes_eq_ok_iff : v.listNotes = .ok notes ↔
    (∀ q ∈ v.listPaths "md", (v.file? q).isSome = true) ∧
      notes = (v.listPaths "md").map v.listed :=
  mapM_eq_ok_iff fun _ _ => listedNote_eq_ok_iff

/-- A path with the extension of notes ends in a letter `d`. -/
theorem exists_of_hasExtension (h : Path.hasExtension "md" q = true) :
    ∃ l d, q = l ++ [d] ∧ d.toLower = 'd' := by
  unfold Path.hasExtension Path.extension? at h
  cases hcut : Text.cutLast? '.' q with
  | none => simp [hcut] at h
  | some sides =>
    obtain ⟨l, e⟩ := sides
    have halike : Text.alike e "md".toList = true := by simpa [hcut] using h
    obtain ⟨m, r, rfl, -, hr⟩ := Text.alike_cons_iff.mp halike
    obtain ⟨d, r, rfl, hd, hnil⟩ := Text.alike_cons_iff.mp hr
    obtain rfl := Text.alike_nil_iff.mp hnil
    obtain ⟨rfl, -⟩ := Text.cutLast?_eq_some hcut
    exact ⟨l ++ ['.', m], d, by simp, hd.symm⟩

/-- What has an extension of letters is not listed as a folder. -/
theorem not_isFolder_of_hasExtension (h : Path.hasExtension "md" q = true) (v : Vault) :
    isFolder (v.address q) = false := by
  obtain ⟨l, d, rfl, hd⟩ := exists_of_hasExtension h
  have hletter : d.isAlpha = true := Text.isAlpha_of_isAlpha_toLower (by rw [hd]; rfl)
  exact not_isFolder_append (Text.isBlank_eq_false_of_isAlpha hletter)
    (Text.ne_slash_of_isAlpha hletter) v l

/-- Whether each note is listed under a path that is left as it is by reading it once more. -/
def HasStablePaths (v : Vault) : Prop := ∀ q ∈ v.listPaths "md", Path.ofNote q = q

theorem ne_nil_of_hasExtension {ext : Text} (h : Path.hasExtension ext q = true) : q ≠ [] := by
  rintro rfl
  contradiction

theorem getNote_listed (hq : Path.ofNote q = q) (hne : q ≠ [])
    (hfile : (v.file? q).isSome = true) : v.getNote q = .ok (v.listed q) := by
  obtain ⟨bytes, hbytes⟩ := Option.isSome_iff_exists.mp hfile
  rw [getNote_eq_ok_iff, hq]
  refine ⟨Utf8.decode bytes, readRaw_eq_ok_iff.mpr ?_, ?_⟩
  · rw [hq]
    exact ⟨hne, bytes, hbytes, rfl⟩
  · rw [listed, hbytes]
    rfl

section Stable

variable (hpaths : v.HasStablePaths) (hn : v.listNotes = .ok notes)

include hpaths hn

theorem exists_listed_of_mem (hmem : n ∈ notes) :
    n.path ∈ v.listPaths "md" ∧ n = v.listed n.path := by
  obtain ⟨-, rfl⟩ := listNotes_eq_ok_iff.mp hn
  obtain ⟨q, hq, rfl⟩ := List.mem_map.mp hmem
  have hpath : (v.listed q).path = q := hpaths q hq
  rw [hpath]
  exact ⟨hq, rfl⟩

/-- A note that is listed is read through its path as it is listed. -/
theorem getNote_of_mem (hmem : n ∈ notes) : v.getNote n.path = .ok n := by
  obtain ⟨hq, hlisted⟩ := exists_listed_of_mem hpaths hn hmem
  have hread := (listNotes_eq_ok_iff.mp hn).1 _ hq
  have hne := ne_nil_of_hasExtension (mem_listPaths.mp hq).2.2
  rw [getNote_listed (hpaths _ hq) hne hread, ← hlisted]

theorem eq_of_path_eq (hnm : n.path = m.path) (hmem : n ∈ notes) (hmem' : m ∈ notes) : n = m := by
  rw [(exists_listed_of_mem hpaths hn hmem).2, (exists_listed_of_mem hpaths hn hmem').2, hnm]

end Stable

/-- The paths that are listed once a note is written at a path. -/
def pathsWith (v : Vault) (k : Text) : List Text := (v.written k [] 0).listPaths "md"

/-- Whether the notes can be listed once one is written at a path, and this one under its path alone. -/
structure ListsAlone (v : Vault) (k : Text) : Prop where
  found : k ∈ v.pathsWith k
  alone : ∀ q ∈ v.pathsWith k, Path.ofNote q = k → q = k
  readable : ∀ q ∈ v.pathsWith k, ((v.written k [] 0).file? q).isSome = true

theorem folder_congr (h : w.root = v.root) : w.folder = v.folder := by
  rw [folder, folder, h]

theorem mem_keys_written {a : Text} (h : isFolder (v.address k) = false) :
    a ∈ (v.written k bytes now).store.files.keys ↔
      a = v.address ledgerPath ∨ a = v.address k ∨ a ∈ v.store.files.keys := by
  rw [files_written h, Index.mem_keys_insert, Index.mem_keys_insert]

theorem mem_filesWithin {s : Store} {f a : Text} : a ∈ s.filesWithin f ↔
    a ∈ s.files.keys ∧ isWithin (Address.ofPath f) a = true := by
  rw [Store.filesWithin, List.mem_filter]

/-- The listed paths do not depend on what is written, or when. -/
theorem mem_pathsWith (h : isFolder (v.address k) = false) (bytes : Bytes) (now : Int) :
    q ∈ (v.written k bytes now).listPaths "md" ↔ q ∈ v.pathsWith k := by
  have hroot := root_written h bytes now
  have hroot' := root_written h [] 0
  simp only [pathsWith, mem_listPaths, mem_filesWithin, mem_keys_written h, hroot, hroot',
    folder_congr hroot, folder_congr hroot']

theorem isSome_file?_written (h : isFolder (v.address k) = false) (bytes : Bytes) (now : Int) :
    ((v.written k bytes now).file? q).isSome = ((v.written k [] 0).file? q).isSome := by
  rw [(wrote_written h bytes now).file, (wrote_written h [] 0).file]
  by_cases hledger : v.IsLedger q
  · simp only [if_pos hledger, Option.isSome_some]
  · by_cases hkey : v.address q = v.address k
    · simp only [if_neg hledger, if_pos hkey, Option.isSome_some]
    · simp only [if_neg hledger, if_neg hkey]

end Vault

end NoteVault
