import NoteVault.Proofs.Query.Selection
import NoteVault.Proofs.Sorting

/-! The pages of a query that is answered from the vault: each one shows its part of the selected
notes, and together they show each selected note once. -/

namespace NoteVault

section Page

variable {α : Type}

theorem page_eq_extract (items : List α) {number : Nat} (h : 1 ≤ number) (limit : Nat) :
    page items number limit =
      items.extract ((number - 1) * limit) (min (number * limit) items.length) := by
  obtain ⟨k, rfl⟩ : ∃ k, number = k + 1 := ⟨number - 1, by omega⟩
  have hend : (k + 1) * limit = k * limit + limit := Nat.succ_mul k limit
  rw [page, List.extract_eq_take_drop, hend, Nat.add_sub_cancel]
  refine List.take_eq_take_iff.mpr ?_
  rw [List.length_drop]
  omega

theorem mem_page_iff {items : List α} {x : α} {number limit : Nat} : x ∈ page items number limit ↔
    ∃ i, (number - 1) * limit ≤ i ∧ i < (number - 1) * limit + limit ∧ items[i]? = some x := by
  simp only [page, List.mem_iff_getElem?, List.getElem?_take, List.getElem?_drop]
  constructor
  · rintro ⟨i, hi⟩
    split at hi
    · next hlt => exact ⟨(number - 1) * limit + i, by omega, by omega, hi⟩
    · contradiction
  · rintro ⟨i, hlow, hhigh, hi⟩
    refine ⟨i - (number - 1) * limit, ?_⟩
    rw [if_pos (by omega), Nat.add_sub_cancel' hlow, hi]

theorem flatMap_page (items : List α) (limit k : Nat) :
    (List.range k).flatMap (fun i => page items (i + 1) limit) = items.take (k * limit) := by
  induction k with
  | zero => simp
  | succ k ih =>
    rw [List.range_succ, List.flatMap_append, ih, Nat.succ_mul, List.take_add]
    simp [page]

/-- How many pages show all of some items. -/
def pageCount (total limit : Nat) : Nat := (total + limit - 1) / limit

theorem le_pageCount_mul {limit : Nat} (h : 1 ≤ limit) (total : Nat) :
    total ≤ pageCount total limit * limit := by
  have hdiv := Nat.div_add_mod (total + limit - 1) limit
  have hmod := Nat.mod_lt (total + limit - 1) h
  rw [Nat.mul_comm] at hdiv
  unfold pageCount
  omega

/-- All pages of some items show all of them in order. -/
theorem flatMap_pages (items : List α) {limit : Nat} (h : 1 ≤ limit) {pages : Nat → List α}
    (hpages : ∀ i < pageCount items.length limit, pages i = page items (i + 1) limit) :
    (List.range (pageCount items.length limit)).flatMap pages = items := by
  have hmap : ∀ i ∈ List.range (pageCount items.length limit),
      pages i = page items (i + 1) limit := fun i hi => hpages i (List.mem_range.mp hi)
  rw [List.flatMap_def, List.map_congr_left hmap, ← List.flatMap_def, flatMap_page]
  exact List.take_of_length_le (le_pageCount_mul h items.length)

end Page

namespace Query

theorem bmod_natCast {n m : Nat} (h : 2 * n < m) : Int.bmod n m = n :=
  Int.bmod_eq_of_le_mul_two (by omega) (by omega)

theorem clamp_eq {n top : Nat} (h : 1 ≤ n) (hn : n ≤ top) (htop : top < 0x8000000000000000) :
    clamp n top = n := by
  have hwrapped : wrapped top = top := bmod_natCast (by omega)
  rw [clamp, hwrapped, if_neg (by omega), if_neg (by omega)]
  rfl

/-- The request that asks for a page of some length and is the same otherwise. -/
def askPage (r : Request) (limit number : Nat) : Request :=
  { r with limit := some limit, page := some number }

/-- The rows of an answer; a fault has none. -/
def answerRows (a : Except Fault Response) : List Row := (a.toOption.map Response.rows).getD []

/-- Some notes are paged: each page that may be asked for shows its part of them and counts all of
them, and if as many pages as they need may be asked for, these show all of them in order. -/
structure Paged [Sorting.Sorter] (v : Vault) (cache : Snapshots) (settings : Settings) (base : Text)
    (r : Request) (now : Int) (s : Schema) (notes : List Note) : Prop where
  part : ∀ limit number, 1 ≤ limit → limit ≤ settings.maxLimit → 1 ≤ number →
    number ≤ settings.maxPage →
    ∃ a, run v cache settings base (askPage r limit number) now = (.ok a, cache) ∧
      a.source = .vault ∧ a.limit = limit ∧ a.page = number ∧ a.total = notes.length ∧
      a.rows = (notes.extract ((number - 1) * limit) (min (number * limit) notes.length)).map
        fun n => Row.build n s r.evaluate
  whole : ∀ limit, 1 ≤ limit → limit ≤ settings.maxLimit →
    pageCount notes.length limit ≤ settings.maxPage →
    (List.range (pageCount notes.length limit)).flatMap (fun i =>
        answerRows (run v cache settings base (askPage r limit (i + 1)) now).1) =
      notes.map fun n => Row.build n s r.evaluate

section Pages

theorem respond_askPage {settings : Settings} {r : Request}
    (hlimit : settings.maxLimit < 0x8000000000000000)
    (hpage : settings.maxPage < 0x8000000000000000) {limit number : Nat} (hl : 1 ≤ limit)
    (hl' : limit ≤ settings.maxLimit) (hp : 1 ≤ number) (hp' : number ≤ settings.maxPage)
    (sel : Selection) (source : Source) (total : Nat) (rows : List Row) :
    respond settings (askPage r limit number) sel source total rows =
      { total, source, limit, page := number, view := sel.view.map View.name
        rows := NoteVault.page rows number limit, evaluate := r.evaluate
        warnings := Warnings.report settings.maxWarnings sel.warnings } := by
  have hlim : Query.limit settings sel.view (askPage r limit number) = limit :=
    clamp_eq hl hl' hlimit
  have hnum : pageNumber settings (askPage r limit number) = number := clamp_eq hp hp' hpage
  rw [respond, hlim, hnum]
  rfl

variable [Sorting.Sorter] {v : Vault} {cache : Snapshots} {settings : Settings} {base : Text}
  {r : Request} {now : Int} {s : Schema} {notes ms : List Note}

theorem run_askPage (hlive : (r.evaluate && settings.liveEngine) = false)
    (hs : v.getSchema (Path.ofBase base) = .ok s) (hn : v.listNotes = .ok notes)
    (hm : matching s notes r = some ms) (limit number : Nat) :
    run v cache settings base (askPage r limit number) now =
      (.ok (respond settings (askPage r limit number) (selection s notes r ms) .vault
        ms.length ((selection s notes r ms).rows r.evaluate)), cache) :=
  run_eq_ok (r := askPage r limit number) hlive hs hn hm

theorem paged_matching (hlimit : settings.maxLimit < 0x8000000000000000)
    (hpage : settings.maxPage < 0x8000000000000000)
    (hlive : (r.evaluate && settings.liveEngine) = false)
    (hs : v.getSchema (Path.ofBase base) = .ok s) (hn : v.listNotes = .ok notes)
    (hm : matching s notes r = some ms) : Paged v cache settings base r now s ms where
  part := by
    intro limit number hl hl' hp hp'
    refine ⟨_, run_askPage hlive hs hn hm limit number, ?_⟩
    rw [respond_askPage hlimit hpage hl hl' hp hp']
    refine ⟨rfl, rfl, rfl, rfl, ?_⟩
    change NoteVault.page (ms.map fun n => Row.build n s r.evaluate) number limit = _
    rw [page_eq_extract _ hp, List.length_map]
    simp [List.extract_eq_take_drop, List.map_take, List.map_drop]
  whole := by
    intro limit hl hl' hcount
    have hlength : ((selection s notes r ms).rows r.evaluate).length = ms.length := length_rows _ _
    rw [← hlength] at hcount ⊢
    apply flatMap_pages _ hl
    intro i hi
    rw [run_askPage hlive hs hn hm, respond_askPage hlimit hpage hl hl' (by omega) (by omega)]
    rfl

theorem not_live_of_vault_answer
    (h : (run v cache settings base r now).1.toOption.map Response.source = some .vault) :
    (r.evaluate && settings.liveEngine) = false := by
  rw [Bool.eq_false_iff]
  intro hlive
  cases hsel : select v base r with
  | error f =>
    rw [run_eq_of_error hsel] at h
    contradiction
  | ok s =>
    cases hkept : Snapshots.find? cache (Path.ofBase base) with
    | none =>
      rw [run_eq_of_fresh hlive hkept hsel] at h
      exact absurd h (by simp [Except.toOption, respond])
    | some kept =>
      rw [run_eq_of_kept hlive hkept, hsel] at h
      exact absurd h (by simp [Except.map, Except.toOption, respond])

/-- A query that is answered from the vault shows the notes that pass each of its filters, in the
order of its sort keys. Each page shows its part of them, and all pages show each of them once. -/
theorem paged_of_vault_answer (hlimit : settings.maxLimit < 0x8000000000000000)
    (hpage : settings.maxPage < 0x8000000000000000)
    (h : (run v cache settings base r now).1.toOption.map Response.source = some .vault) :
    ∃ s notes ms, v.getSchema (Path.ofBase base) = .ok s ∧ v.listNotes = .ok notes ∧
      matching s notes r = some ms ∧ ms.Perm (notes.filter (passesEach s r)) ∧
      Paged v cache settings base r now s ms := by
  have hlive := not_live_of_vault_answer h
  rw [run_eq_of_not_live hlive] at h
  cases hsel : select v base r with
  | error f =>
    rw [hsel] at h
    contradiction
  | ok sel =>
    obtain ⟨s, notes, ms, hs, hn, hm, -⟩ := exists_of_select hsel
    exact ⟨s, notes, ms, hs, hn, hm, matching_perm hm, paged_matching hlimit hpage hlive hs hn hm⟩

end Pages

/-- A request for those of the large notes that are below 10, the largest first. -/
def largestFirst : Request :=
  { view := some "large", filter := some (.statement "x < 10"), sort := some [.text "-x"] }

/-- Each filter leaves out a note, and the second page of one row shows the last note. -/
theorem paged_largestFirst :
    ((run fiveNotes .empty {} "T" largestFirst 0).1.toOption.map Response.source = some .vault) ∧
      ∃ s notes ms, fiveNotes.getSchema (Path.ofBase "T") = .ok s ∧
        fiveNotes.listNotes = .ok notes ∧ matching s notes largestFirst = some ms ∧
        ms.Perm (notes.filter (passesEach s largestFirst)) ∧
        Paged fiveNotes .empty {} "T" largestFirst 0 s ms ∧
        (notes.length, ms.map Note.path) = (5, ["c.md".toList, "d.md".toList]) ∧
        (answerRows (run fiveNotes .empty {} "T" (askPage largestFirst 1 2) 0).1).map Row.path =
          ["d.md".toList] := by
  have h : (run fiveNotes .empty {} "T" largestFirst 0).1.toOption.map Response.source =
      some .vault := by
    simp only [run, select, listNotes_fiveNotes]
    decide +kernel
  have hrows : (answerRows (run fiveNotes .empty {} "T" (askPage largestFirst 1 2) 0).1).map
      Row.path = ["d.md".toList] := by
    simp only [run, select, listNotes_fiveNotes]
    decide +kernel
  have hselected : (select fiveNotes "T" largestFirst).toOption.map (·.notes.map Note.path) =
      some ["c.md".toList, "d.md".toList] := by
    simp only [select, listNotes_fiveNotes]
    decide +kernel
  obtain ⟨s, notes, ms, hs, hn, hm, hperm, hpaged⟩ :=
    paged_of_vault_answer (by decide) (by decide) h
  rw [select_eq_ok hs hn hm] at hselected
  have hlength : notes.length = 5 := by
    rw [listNotes_fiveNotes] at hn
    rw [← Except.ok.inj hn]
    rfl
  have hpaths : ms.map Note.path = ["c.md".toList, "d.md".toList] := Option.some.inj hselected
  exact ⟨h, s, notes, ms, hs, hn, hm, hperm, hpaged, by rw [hlength, hpaths], hrows⟩

end Query

end NoteVault
