import NoteVault.Proofs.Query.Paging
import NoteVault.Proofs.Vault.Parted

/-! The check of one note by itself against the queries of a base. Both read the notes alike where each
note is listed under a path that leads to it, and both read the base alike where its key, read once more,
leads to the same file. -/

namespace NoteVault.Query

/-- The request that asks for a page of some length and some number, if for any, and is the same
otherwise. -/
def asking (r : Request) (p : Option Int × Option Int) : Request :=
  { r with limit := p.1, page := p.2 }

/-- The answers to a request for some pages. -/
def pageAnswers [Sorting.Sorter] (v : Vault) (cache : Snapshots) (settings : Settings) (base : Text)
    (r : Request) (now : Int) (asked : List (Option Int × Option Int)) : List (Except Fault Response) :=
  asked.map fun p => (run v cache settings base (asking r p) now).1

/-- Whether each place that some answers count is on the page of one of them. -/
structure CoverAll (pages : List Response) : Prop where
  nonempty : pages ≠ []
  covered : ∀ a ∈ pages, ∀ i < a.total, ∃ b ∈ pages,
    (b.page - 1) * b.limit ≤ i ∧ i < (b.page - 1) * b.limit + b.limit

/-- Whether an answer counts some rows and shows those of its page. -/
structure ShowsPart (rows : List Row) (a : Response) : Prop where
  total : a.total = rows.length
  rows : a.rows = page rows a.page a.limit

theorem exists_row_iff {pages : List Response} {rows : List Row} {p : Row → Prop}
    (hparts : ∀ a ∈ pages, ShowsPart rows a) (hcover : CoverAll pages) :
    (∃ a ∈ pages, ∃ row ∈ a.rows, p row) ↔ ∃ row ∈ rows, p row := by
  constructor
  · rintro ⟨a, ha, row, hrow, hp⟩
    rw [(hparts a ha).rows] at hrow
    obtain ⟨i, -, -, hi⟩ := mem_page_iff.mp hrow
    exact ⟨row, List.mem_of_getElem? hi, hp⟩
  · rintro ⟨row, hrow, hp⟩
    obtain ⟨i, hi⟩ := List.mem_iff_getElem?.mp hrow
    obtain ⟨a, ha⟩ := List.exists_mem_of_ne_nil _ hcover.nonempty
    have hlt : i < a.total := by
      rw [(hparts a ha).total]
      exact (List.getElem?_eq_some_iff.mp hi).1
    obtain ⟨b, hb, hlow, hhigh⟩ := hcover.covered a ha i hlt
    refine ⟨b, hb, row, ?_, hp⟩
    rw [(hparts b hb).rows]
    exact mem_page_iff.mpr ⟨i, hlow, hhigh, hi⟩

section Request

variable {v : Vault} {base : Text} {r : Request} {s : Schema} {notes : List Note}

theorem checkNote_eq_ok {n : Note} {f : Option Filter} (hn : v.getNote n.path = .ok n)
    (hs : v.getSchema base = .ok s) :
    checkNote v n.path f (some base) = .ok (Filter.evaluate n s.formulas f) := by
  rw [checkNote, hn]
  dsimp only
  rw [hs]
  rfl

theorem passesEach_of_no_view (hview : s.view? r.view = none) (n : Note) :
    passesEach s r n =
      (Filter.evaluate n s.formulas (Filter.combine [s.filter, r.filter])).ok := by
  rw [passesEach, ok_evaluate_combine, hview]
  rfl

theorem sortKeys_of_no_view (hview : s.view? r.view = none) (hsort : r.sort.getD [] = []) :
    sortKeys (s.view? r.view) r = [] := by
  rw [hview, sortKeys]
  split
  · next k ks h =>
    rw [h] at hsort
    contradiction
  · rfl

theorem exists_row_iff_passesEach (hpaths : v.HasStablePaths) (hn : v.listNotes = .ok notes)
    {n : Note} (hmem : n ∈ notes) (evaluate : Bool) :
    (∃ row ∈ (selection s notes r (notes.filter (passesEach s r))).rows evaluate,
      row.path = n.path) ↔ passesEach s r n = true := by
  constructor
  · rintro ⟨row, hrow, hpath⟩
    obtain ⟨m, hm, rfl⟩ := List.mem_map.mp hrow
    obtain ⟨hmem', hpasses⟩ := List.mem_filter.mp hm
    obtain rfl : m = n := Vault.eq_of_path_eq hpaths hn hpath hmem' hmem
    exact hpasses
  · intro hpasses
    exact ⟨_, List.mem_map_of_mem (List.mem_filter.mpr ⟨hmem, hpasses⟩), rfl⟩

end Request

/-- Whether the check of each note, with the filters of a base and of a request, tells that it passes
exactly if the pages that a query of the base without a view and without sort keys shows have a row of
it, as long as these pages show all that they count. -/
def CheckedAsShown [Sorting.Sorter] (v : Vault) (base : Text) : Prop :=
  ∀ s notes, v.getSchema base = .ok s → v.listNotes = .ok notes →
    ∀ (cache : Snapshots) (settings : Settings) (r : Request) (now : Int)
      (asked : List (Option Int × Option Int)), s.view? r.view = none → r.sort.getD [] = [] →
      (r.evaluate && settings.liveEngine) = false →
      ∃ pages : List Response, pageAnswers v cache settings base r now asked = pages.map .ok ∧
        ∀ n ∈ notes, ∃ o,
          checkNote v n.path (Filter.combine [s.filter, r.filter]) (some base) = .ok o ∧
            (CoverAll pages → (o.ok = true ↔ ∃ a ∈ pages, ∃ row ∈ a.rows, row.path = n.path))

section Agreement

variable [Sorting.Sorter] {v : Vault} {cache : Snapshots} {settings : Settings} {base : Text}
  {r : Request} {now : Int} {s : Schema} {notes ms : List Note}

theorem exists_pageAnswers (cache : Snapshots) (now : Int)
    (hlive : (r.evaluate && settings.liveEngine) = false)
    (hs : v.getSchema (Path.ofBase base) = .ok s) (hn : v.listNotes = .ok notes)
    (hm : matching s notes r = some ms) (asked : List (Option Int × Option Int)) :
    ∃ pages : List Response, pageAnswers v cache settings base r now asked = pages.map .ok ∧
      ∀ a ∈ pages, ShowsPart ((selection s notes r ms).rows r.evaluate) a := by
  refine ⟨asked.map fun p => respond settings (asking r p) (selection s notes (asking r p) ms) .vault
    ms.length ((selection s notes r ms).rows r.evaluate), ?_, ?_⟩
  · rw [pageAnswers, List.map_map]
    refine List.map_congr_left fun p _ => ?_
    exact congrArg Prod.fst (run_eq_ok (r := asking r p) hlive hs hn hm)
  · intro a ha
    obtain ⟨p, -, rfl⟩ := List.mem_map.mp ha
    exact ⟨(length_rows (selection s notes r ms) r.evaluate).symm, rfl⟩

theorem checkedAsShown_of_address (hpaths : v.HasStablePaths)
    (hkey : v.address (Path.ofBase (Path.ofBase base)) = v.address (Path.ofBase base)) :
    CheckedAsShown v base := by
  intro s notes hs hn cache settings r now asked hview hsort hlive
  -- The check reads the schema of `base`, and the query that of its key: `s` and `s'`.
  obtain ⟨s', hs', hformulas, hfilter, hviews⟩ := Vault.exists_getSchema_of_address hkey hs
  have hview' : s'.view? r.view = none := by
    rw [← hview]
    unfold Schema.view?
    rw [hviews]
  have hm : matching s' notes r = some (notes.filter (passesEach s' r)) :=
    matching_of_no_key (sortKeys_of_no_view hview' hsort)
  obtain ⟨pages, hpages, hparts⟩ := exists_pageAnswers cache now hlive hs' hn hm asked
  refine ⟨pages, hpages, fun n hmem => ?_⟩
  refine ⟨_, checkNote_eq_ok (Vault.getNote_of_mem hpaths hn hmem) hs, fun hcover => ?_⟩
  rw [exists_row_iff hparts hcover, exists_row_iff_passesEach hpaths hn hmem,
    passesEach_of_no_view hview', hformulas, hfilter]

/-- A query that counts nothing does not show the notes that pass the check. -/
theorem not_checkedAsShown {n : Note} {o : Outcome} {a : Response} (hs : v.getSchema base = .ok s)
    (hn : v.listNotes = .ok notes) (hmem : n ∈ notes) (hview : s.view? r.view = none)
    (hsort : r.sort.getD [] = []) (hlive : (r.evaluate && settings.liveEngine) = false)
    (hcheck : checkNote v n.path (Filter.combine [s.filter, r.filter]) (some base) = .ok o)
    (hpasses : o.ok = true) (hrun : (run v cache settings base r now).1 = .ok a)
    (htotal : a.total = 0) (hrows : a.rows = []) : ¬CheckedAsShown v base := by
  intro h
  obtain ⟨pages, hpages, hnotes⟩ :=
    h s notes hs hn cache settings r now [(r.limit, r.page)] hview hsort hlive
  obtain rfl : pages = [a] := by
    have hanswers : (pages.map .ok : List (Except Fault Response)) = [.ok a] := by
      rw [← hpages, ← hrun]
      rfl
    obtain ⟨b, rfl, hb⟩ := List.map_eq_singleton_iff.mp hanswers
    rw [Except.ok.inj hb]
  have hcover : CoverAll [a] := by
    refine ⟨List.cons_ne_nil a [], fun b hb i hi => ?_⟩
    rw [List.mem_singleton.mp hb, htotal] at hi
    contradiction
  obtain ⟨o', ho, hiff⟩ := hnotes n hmem
  obtain rfl : o = o' := Except.ok.inj (hcheck.symm.trans ho)
  obtain ⟨b, hb, row, hrow, -⟩ := (hiff hcover).mp hpasses
  rw [List.mem_singleton.mp hb, hrows] at hrow
  contradiction

theorem exists_run_of_none (cache : Snapshots) (now : Int)
    (hs : v.getSchema (Path.ofBase base) = .ok s) (hn : v.listNotes = .ok notes)
    (hlive : (r.evaluate && settings.liveEngine) = false)
    (hnone : ∀ n, (Filter.evaluate n s.formulas s.filter).ok = false) :
    ∃ a, (run v cache settings base r now).1 = .ok a ∧ a.total = 0 ∧ a.rows = [] := by
  have hempty : notes.filter (passesEach s r) = [] := by
    rw [List.filter_eq_nil_iff]
    intro n _
    simp [passesEach, hnone]
  have hm : matching s notes r = some [] := by
    rw [matching, hempty]
    exact Sorting.notes_eq_ascending ⟨by simp, by simp⟩
  refine ⟨_, congrArg Prod.fst (run_eq_ok hlive hs hn hm), rfl, ?_⟩
  simp [respond, Selection.rows, selection, page]

/-- A request under a view that no base without views declares. -/
def unseen : Request := { view := some "none" }

theorem not_checkedAsShown_parted (hroot : Address.ofPath v.folder = v.folder)
    (hkey : v.address (Path.ofBase (Path.ofBase base)) ≠ v.address (Path.ofBase base)) :
    ¬CheckedAsShown (v.parted base) base := by
  obtain ⟨n, notes, hn, hmem⟩ := Vault.exists_listNotes_parted hroot base
  obtain ⟨s', hs', hfilter⟩ := v.exists_getSchema_ofBase_parted base
  have hs := Vault.getSchema_parted hkey
  have hread := Vault.getNote_of_mem (Vault.hasStablePaths_parted hroot base) hn hmem
  have hlive : (unseen.evaluate && ({} : Settings).liveEngine) = false := rfl
  have hnone : ∀ m, (Filter.evaluate m s'.formulas s'.filter).ok = false := by
    intro m
    rw [hfilter]
    rfl
  obtain ⟨a, hrun, htotal, hrows⟩ := exists_run_of_none .empty 0 hs' hn hlive hnone
  exact not_checkedAsShown hs hn hmem rfl rfl hlive (checkNote_eq_ok hread hs) rfl hrun htotal hrows

/-- The check of each note agrees with the queries of a base, whatever is stored under paths that are left
as they are, if the key of the base read once more leads to the same file. Where it leads to another one,
some store keeps a base at each of them, and the check and the query read different ones. -/
theorem checkedAsShown_iff_address (v : Vault) (base : Text) :
    (v.address (Path.ofBase (Path.ofBase base)) = v.address (Path.ofBase base) →
      ∀ store, (Vault.mk v.root store).HasStablePaths → CheckedAsShown ⟨v.root, store⟩ base) ∧
    (Address.ofPath v.folder = v.folder →
      (∀ store, (Vault.mk v.root store).HasStablePaths → CheckedAsShown ⟨v.root, store⟩ base) →
        v.address (Path.ofBase (Path.ofBase base)) = v.address (Path.ofBase base)) := by
  constructor
  · intro hkey store hpaths
    exact checkedAsShown_of_address hpaths hkey
  · intro hroot h
    by_contra hkey
    exact not_checkedAsShown_parted hroot hkey (h _ (Vault.hasStablePaths_parted hroot base))

end Agreement

/-- A request for the notes whose `x` is above 8, under no view of the base. -/
def aboveEight : Request := { view := some "none", filter := some (.statement "x > 8") }

/-- The pages of one row show the two notes that pass the check. The filter of the base leaves out the last
note, and the base is spelled with a step `./`. -/
theorem checkedAsShown_fiveNotes :
    fiveNotes.address (Path.ofBase (Path.ofBase "./T")) = fiveNotes.address (Path.ofBase "./T") ∧
      fiveNotes.HasStablePaths ∧ CheckedAsShown fiveNotes "./T" ∧
      ∃ pages : List Response, pageAnswers fiveNotes .empty {} "./T" aboveEight 0
          [(some 1, some 1), (some 1, some 2)] = pages.map .ok ∧ CoverAll pages ∧
        pages.map (fun a => a.rows.map Row.path) = [["a.md".toList], ["c.md".toList]] ∧
        ["a.md", "b.md", "c.md", "d.md", "e.md"].map (fun path => (checkNote fiveNotes path.toList
          (Filter.combine [some (.statement "!done"), aboveEight.filter])
          (some "./T")).toOption.map Outcome.ok) =
            [some true, some false, some true, some false, some false] := by
  have hkey : fiveNotes.address (Path.ofBase (Path.ofBase "./T")) =
      fiveNotes.address (Path.ofBase "./T") := by decide
  have hpaths : fiveNotes.HasStablePaths := by
    unfold Vault.HasStablePaths
    rw [listPaths_fiveNotes]
    decide
  obtain ⟨a, ha, ha'⟩ : ∃ a, (run fiveNotes .empty {} "./T" (asking aboveEight (some 1, some 1)) 0).1 =
      .ok a ∧ (a.total == 2 && a.page == 1 && a.limit == 1 &&
        a.rows.map Row.path == ["a.md".toList]) = true := by
    simp only [run, select, listNotes_fiveNotes]
    exact exists_of_any_toOption (by decide +kernel)
  obtain ⟨b, hb, hb'⟩ : ∃ b, (run fiveNotes .empty {} "./T" (asking aboveEight (some 1, some 2)) 0).1 =
      .ok b ∧ (b.total == 2 && b.page == 2 && b.limit == 1 &&
        b.rows.map Row.path == ["c.md".toList]) = true := by
    simp only [run, select, listNotes_fiveNotes]
    exact exists_of_any_toOption (by decide +kernel)
  simp only [Bool.and_eq_true, beq_iff_eq] at ha' hb'
  obtain ⟨⟨⟨hatotal, hapage⟩, halimit⟩, harows⟩ := ha'
  obtain ⟨⟨⟨hbtotal, hbpage⟩, hblimit⟩, hbrows⟩ := hb'
  have hcover : CoverAll [a, b] := by
    refine ⟨List.cons_ne_nil a [b], fun c hc i hi => ?_⟩
    have htotal : c.total = 2 := by
      rcases List.mem_pair.mp hc with rfl | rfl
      · exact hatotal
      · exact hbtotal
    obtain rfl | rfl : i = 0 ∨ i = 1 := by omega
    · exact ⟨a, by simp, by simp [hapage], by simp [hapage, halimit]⟩
    · exact ⟨b, by simp, by simp [hbpage, hblimit], by simp [hbpage, hblimit]⟩
  refine ⟨hkey, hpaths, (checkedAsShown_iff_address fiveNotes "./T").1 hkey fiveNotes.store hpaths,
    [a, b], ?_, hcover, ?_, by decide +kernel⟩
  · rw [pageAnswers, List.map_cons, List.map_cons, ha, hb]
    rfl
  · rw [List.map_cons, List.map_cons, harows, hbrows]
    rfl

/-- A vault with a base whose name begins with a blank, and another one without the blank. -/
def twoBases : Vault where
  root := "vault"
  store := ⟨.ofList [("vault/ T.base", Utf8.encode "formulas:\n  x: 1\n".toList),
    ("vault/T.base", Utf8.encode "formulas:\n  x: 0\n".toList), ("vault/a.md", [])], .empty⟩

/-- A request for the notes for which the formula `x` of the base holds. -/
def whereX : Request := { view := some "none", filter := some (.statement "formula.x") }

/-- The check reads the base with the blank in its name, and the query the other one. -/
theorem not_checkedAsShown_twoBases :
    twoBases.HasStablePaths ∧ ¬CheckedAsShown twoBases "/ T" := by
  refine ⟨by unfold Vault.HasStablePaths; decide +kernel, ?_⟩
  obtain ⟨s, hs, hs'⟩ : ∃ s, twoBases.getSchema "/ T" = .ok s ∧
      (s.filter.isNone && s.views.isEmpty) = true := exists_of_any_toOption (by decide +kernel)
  obtain ⟨notes, hn, hn'⟩ : ∃ notes, twoBases.listNotes = .ok notes ∧
      (notes.any fun n => n.path == "a.md".toList) = true := exists_of_any_toOption (by decide +kernel)
  obtain ⟨o, hcheck, ho⟩ : ∃ o, checkNote twoBases "a.md" (Filter.combine [none, whereX.filter])
      (some "/ T") = .ok o ∧ o.ok = true := exists_of_any_toOption (by decide +kernel)
  obtain ⟨a, hrun, ha⟩ : ∃ a, (run twoBases .empty {} "/ T" whereX 0).1 = .ok a ∧
      (a.total == 0 && a.rows.isEmpty) = true := exists_of_any_toOption (by decide +kernel)
  simp only [Bool.and_eq_true, Option.isNone_iff_eq_none, List.isEmpty_iff, beq_iff_eq] at hs' ha
  obtain ⟨n, hmem, hpath⟩ := List.any_eq_true.mp hn'
  rw [← beq_iff_eq.mp hpath] at hcheck
  refine not_checkedAsShown hs hn hmem ?_ rfl rfl ?_ ho hrun ha.1 ha.2
  · simp [whereX, Schema.view?, hs'.2]
  · rw [hs'.1]
    exact hcheck

end NoteVault.Query
