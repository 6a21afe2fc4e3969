import NoteVault.Proofs.Filter.Outcome
import NoteVault.Proofs.Query.Sort
import NoteVault.Proofs.Vault.Listing
import NoteVault.Query.Basic

/-! What a query selects: the notes that pass each filter, in the order of its sort keys. An answer
shows a page of them, or of the snapshot that is kept for the base. A query fails where its base or the
notes cannot be read, as every query of the base does then, and where its own sort gives no result. -/

namespace NoteVault.Query

/-- Whether a note passes the filters of the base, of the view and of the request. -/
def passesEach (s : Schema) (r : Request) (n : Note) : Bool :=
  [s.filter, (s.view? r.view).bind View.filter, r.filter].all fun f =>
    (Filter.evaluate n s.formulas f).ok

/-- Whether the sort keys of a request order the notes that pass each filter. -/
def Ordered (s : Schema) (notes : List Note) (r : Request) : Prop :=
  Sorting.IsWeakOrder (Sorting.less s.formulas (sortKeys (s.view? r.view) r))
    (notes.filter (passesEach s r))

/-- The notes that pass each filter, in the order of the sort keys of the request, if the sort gives a
result. -/
def matching [Sorting.Sorter] (s : Schema) (notes : List Note) (r : Request) : Option (List Note) :=
  Sorting.notes s.formulas (sortKeys (s.view? r.view) r) (notes.filter (passesEach s r))

/-- What a request selects under a schema from some notes if its sort gives others. -/
def selection (s : Schema) (notes : List Note) (r : Request) (sorted : List Note) : Selection where
  schema := s
  view := s.view? r.view
  notes := sorted
  warnings := notes.flatMap fun n =>
    (Filter.evaluate n s.formulas (filter s (s.view? r.view) r)).warnings

section Matching

variable [Sorting.Sorter] {s : Schema} {notes ms : List Note} {r : Request}

theorem matching_perm (h : matching s notes r = some ms) :
    ms.Perm (notes.filter (passesEach s r)) := Sorting.notes_perm h

theorem exists_matching (h : Ordered s notes r) : ∃ ms, matching s notes r = some ms :=
  ⟨_, Sorting.notes_eq_ascending h⟩

theorem matching_of_no_key (h : sortKeys (s.view? r.view) r = []) :
    matching s notes r = some (notes.filter (passesEach s r)) := by
  rw [matching, h, Sorting.notes_nil]

end Matching

theorem ok_evaluate_combine (n : Note) (fs : Formulas) (gs : List (Option Filter)) :
    (Filter.evaluate n fs (Filter.combine gs)).ok =
      gs.all fun g => (Filter.evaluate n fs g).ok := by
  have hpresent : gs.all (fun g => (Filter.evaluate n fs g).ok) =
      (gs.filterMap id).all fun f => (Filter.outcome n fs f).ok := by
    induction gs with
    | nil => rfl
    | cons g gs ih =>
      cases g with
      | none =>
        rw [List.all_cons, ih]
        rfl
      | some f =>
        rw [List.all_cons, ih]
        rfl
  rw [hpresent, Filter.combine]
  split
  · next h =>
    rw [h]
    rfl
  · next f fs' h =>
    rw [h, Filter.evaluate, Option.map_some, Option.getD_some, Filter.outcome, Outcome.ok_all,
      Filter.outcomes_eq_map, List.all_map]
    rfl

section Select

variable [Sorting.Sorter] {v : Vault} {base : Text} {s : Schema} {notes : List Note}

theorem select_eq (hs : v.getSchema (Path.ofBase base) = .ok s) (hn : v.listNotes = .ok notes)
    (r : Request) :
    select v base r = match matching s notes r with
      | none => .error .unsorted
      | some ms => .ok (selection s notes r ms) := by
  let outcome (n : Note) : Outcome :=
    Filter.evaluate n s.formulas (filter s (s.view? r.view) r)
  have hpasses : (fun n => (outcome n).ok) = passesEach s r := by
    funext n
    exact ok_evaluate_combine n s.formulas _
  have hselect : select v base r =
      match Sorting.notes s.formulas (sortKeys (s.view? r.view) r)
        (((notes.map fun n => (n, outcome n)).filter fun o => o.2.ok).map Prod.fst) with
      | none => .error .unsorted
      | some ms => .ok
        { schema := s, view := s.view? r.view, notes := ms
          warnings := (notes.map fun n => (n, outcome n)).flatMap fun o => o.2.warnings } := by
    rw [select, hs, hn]
    rfl
  rw [hselect, List.filter_map, List.map_map, List.flatMap_map]
  simp only [Function.comp_def, hpasses, List.map_id']
  rfl

theorem select_eq_ok {r : Request} {ms : List Note} (hs : v.getSchema (Path.ofBase base) = .ok s)
    (hn : v.listNotes = .ok notes) (hm : matching s notes r = some ms) :
    select v base r = .ok (selection s notes r ms) := by
  rw [select_eq hs hn, hm]

theorem exists_of_select {r : Request} {sel : Selection} (h : select v base r = .ok sel) :
    ∃ s notes ms, v.getSchema (Path.ofBase base) = .ok s ∧ v.listNotes = .ok notes ∧
      matching s notes r = some ms ∧ sel = selection s notes r ms := by
  cases hs : v.getSchema (Path.ofBase base) with
  | error f =>
    rw [select, hs] at h
    contradiction
  | ok s =>
    cases hn : v.listNotes with
    | error f =>
      rw [select, hs, hn] at h
      contradiction
    | ok notes =>
      rw [select_eq hs hn] at h
      cases hm : matching s notes r with
      | none =>
        rw [hm] at h
        contradiction
      | some ms =>
        rw [hm] at h
        exact ⟨s, notes, ms, rfl, rfl, hm, (Except.ok.inj h).symm⟩

/-- A query fails as every other query of its base does, whatever it asks for, or because its own keys do
not order the notes that pass its filters. -/
theorem select_eq_error {f : Fault} {r : Request} (h : select v base r = .error f) :
    (∀ q, select v base q = .error f) ∨
      f = .unsorted ∧ ∃ s notes, v.getSchema (Path.ofBase base) = .ok s ∧
        v.listNotes = .ok notes ∧ ¬Ordered s notes r := by
  cases hs : v.getSchema (Path.ofBase base) with
  | error g =>
    rw [select, hs] at h
    refine .inl fun q => ?_
    rw [select, hs]
    exact h
  | ok s =>
    cases hn : v.listNotes with
    | error g =>
      rw [select, hs, hn] at h
      refine .inl fun q => ?_
      rw [select, hs, hn]
      exact h
    | ok notes =>
      rw [select_eq hs hn] at h
      cases hm : matching s notes r with
      | some ms =>
        rw [hm] at h
        contradiction
      | none =>
        rw [hm] at h
        refine .inr ⟨(Except.error.inj h).symm, s, notes, rfl, rfl, fun hordered => ?_⟩
        obtain ⟨ms, hms⟩ := exists_matching hordered
        rw [hm] at hms
        contradiction

theorem select_congr {base' : Text} (h : Path.ofBase base = Path.ofBase base') (r : Request) :
    select v base r = select v base' r := by
  rw [select, select, h]

end Select

theorem length_rows (s : Selection) (evaluate : Bool) :
    (s.rows evaluate).length = s.notes.length := by
  simp [Selection.rows]

theorem get?_push (cache : Snapshots) (base key : Text) (rows : List Row) (now : Int) :
    (Snapshots.push cache base rows now).get? key =
      if key = Path.ofBase base then some (.ofRows rows now) else cache.get? key := by
  rw [Snapshots.push, Snapshots.put, Index.get?_insert]

section Run

variable [Sorting.Sorter] {v : Vault} {cache : Snapshots} {settings : Settings} {base : Text}
  {r : Request} {now : Int}

theorem run_eq_of_not_live (h : (r.evaluate && settings.liveEngine) = false) :
    run v cache settings base r now =
      ((select v base r).map fun s =>
        respond settings r s .vault s.notes.length (s.rows r.evaluate), cache) := by
  rw [run]
  cases select v base r with
  | error f => rfl
  | ok s =>
    simp only [h, Bool.false_eq_true, if_false, length_rows]
    rfl

theorem run_eq_ok {s : Schema} {notes ms : List Note} (h : (r.evaluate && settings.liveEngine) = false)
    (hs : v.getSchema (Path.ofBase base) = .ok s) (hn : v.listNotes = .ok notes)
    (hm : matching s notes r = some ms) :
    run v cache settings base r now =
      (.ok (respond settings r (selection s notes r ms) .vault ms.length
        ((selection s notes r ms).rows r.evaluate)), cache) := by
  rw [run_eq_of_not_live h, select_eq_ok hs hn hm]
  rfl

theorem run_eq_of_kept (h : (r.evaluate && settings.liveEngine) = true) {kept : Snapshot}
    (hkept : Snapshots.find? cache (Path.ofBase base) = some kept) :
    run v cache settings base r now =
      ((select v base r).map fun s => respond settings r s .snapshot kept.total kept.rows,
        cache) := by
  rw [run]
  cases select v base r with
  | error f => rfl
  | ok s =>
    simp only [h, if_true, hkept]
    rfl

theorem run_eq_of_fresh (h : (r.evaluate && settings.liveEngine) = true)
    (hnone : Snapshots.find? cache (Path.ofBase base) = none) {s : Selection}
    (hs : select v base r = .ok s) :
    run v cache settings base r now =
      (.ok (respond settings r s .snapshot s.notes.length (s.rows true)),
        Snapshots.push cache (Path.ofBase base) (s.rows true) now) := by
  rw [run, hs]
  simp only [h, if_true, hnone, length_rows]

theorem run_eq_of_error {f : Fault} (h : select v base r = .error f) :
    run v cache settings base r now = (.error f, cache) := by
  rw [run, h]

theorem exists_select_of_run {a : Response} (h : (run v cache settings base r now).1 = .ok a) :
    ∃ s, select v base r = .ok s := by
  cases hs : select v base r with
  | error f =>
    rw [run_eq_of_error hs] at h
    contradiction
  | ok s => exact ⟨s, rfl⟩

end Run

/-- A vault with an empty base and an empty note. -/
def oneNote : Vault := ⟨[], ⟨.ofList [("T.base", []), ("a.md", [])], .empty⟩⟩

/-- The text of a base that leaves out what is done, with a view of all other notes and one of those whose
`x` is above 5. -/
def openBase : Text :=
  "filters: '!done'\nviews:\n- name: all\n- name: large\n  filters: x > 5\n  limit: 2\n".toList

/-- A vault with this base and notes with an `x`. Of the first three of them each one is below the next one,
and the last one below the first one. -/
def fiveNotes : Vault where
  root := "vault"
  store := ⟨.ofList [("vault/T.base", Utf8.encode openBase),
    ("vault/a.md", Utf8.encode "---\nx: 10\n---\n".toList),
    ("vault/b.md", Utf8.encode "---\nx: 1a\n---\n".toList),
    ("vault/c.md", Utf8.encode "---\nx: 9\n---\n".toList),
    ("vault/d.md", Utf8.encode "---\nx: 7\n---\n".toList),
    ("vault/e.md", Utf8.encode "---\nx: 8\ndone: true\n---\n".toList)], .empty⟩

theorem listPaths_fiveNotes : fiveNotes.listPaths "md" =
    ["a.md".toList, "b.md".toList, "c.md".toList, "d.md".toList, "e.md".toList] :=
  Vault.listPaths_of_pairwise (by decide +kernel) (by decide +kernel) (by decide +kernel)

theorem listNotes_fiveNotes : fiveNotes.listNotes =
    .ok (["a.md".toList, "b.md".toList, "c.md".toList, "d.md".toList, "e.md".toList].map
      fiveNotes.listed) := by
  rw [Vault.listNotes_eq_ok_iff, listPaths_fiveNotes]
  exact ⟨by decide +kernel, rfl⟩

end NoteVault.Query
