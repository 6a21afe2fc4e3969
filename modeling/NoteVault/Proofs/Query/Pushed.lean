import NoteVault.Proofs.Query.Session

/-! What a live query shows after a push to its base: the pushed rows if the key of the base is read as
itself once more, else what it shows without the push. -/

namespace NoteVault.Session

open Query

theorem getSchema_ofBase {v : Vault} {base : Text} (hkey : snapshotKey base = Path.ofBase base) :
    v.getSchema (Path.ofBase base) = v.getSchema base := by
  have hkey' : Path.ofBase (Path.ofBase base) = Path.ofBase base := hkey
  simp only [Vault.getSchema, Vault.loadSpec, Vault.readBase, hkey']

section Sorter

variable [Sorting.Sorter] {u : Session} {steps : List (Int × Step)} {settings : Settings}
  {base : Text} {r : Request} {rows : List Row} {pushed now : Int} {s : Schema}

/-- A session in which some rows are pushed to a base before some steps. -/
def pushedBefore (u : Session) (steps : List (Int × Step)) (base : Text) (rows : List Row)
    (pushed : Int) : Session :=
  u.after ((pushed, .push base rows) :: steps)

theorem vault_pushedBefore (u : Session) (steps : List (Int × Step)) (base : Text)
    (rows : List Row) (pushed : Int) :
    (u.pushedBefore steps base rows pushed).vault = (u.after steps).vault :=
  vault_after_congr u.vault _ _ steps

theorem answer_pushedBefore_of_ne (hlive : (r.evaluate && settings.liveEngine) = true)
    (hkey : snapshotKey base ≠ Path.ofBase base) :
    (u.pushedBefore steps base rows pushed).answer settings base r now =
      (u.after steps).answer settings base r now := by
  have hvault := u.vault_pushedBefore steps base rows pushed
  have hpush : (u.step pushed (.push base rows)).snapshots.get? (snapshotKey base) =
      u.snapshots.get? (snapshotKey base) := by
    have hget := get?_push u.snapshots base (snapshotKey base) rows pushed
    rw [if_neg hkey] at hget
    exact hget
  have hkept : (u.pushedBefore steps base rows pushed).snapshots.get? (snapshotKey base) =
      (u.after steps).snapshots.get? (snapshotKey base) :=
    get?_after_congr (v := u.vault) hpush steps
  rw [answer, answer, run_fst_of_live hlive, run_fst_of_live hlive, hvault, hkept]

theorem get?_pushedBefore (hsteps : ∀ e ∈ steps, e.2.Keeps)
    (hkey : snapshotKey base = Path.ofBase base) :
    (u.pushedBefore steps base rows pushed).snapshots.get? (snapshotKey base) =
      some (.ofRows rows pushed) := by
  have hget := get?_push u.snapshots base (snapshotKey base) rows pushed
  rw [if_pos hkey] at hget
  have hpush : (u.step pushed (.push base rows)).snapshots.get? (snapshotKey base) =
      some (.ofRows rows pushed) := hget
  exact get?_after_of_kept hsteps hpush

theorem exists_answer_pushedBefore (hsteps : ∀ e ∈ steps, e.2.Keeps)
    (hlive : (r.evaluate && settings.liveEngine) = true)
    (hkey : snapshotKey base = Path.ofBase base)
    (hloads : (u.after steps).vault.getSchema base = .ok s) {notes ms : List Note}
    (hnotes : (u.after steps).vault.listNotes = .ok notes) (hm : matching s notes r = some ms) :
    ∃ a, (u.pushedBefore steps base rows pushed).answer settings base r now = .ok a ∧
      ShowsPage rows a := by
  have hvault := u.vault_pushedBefore steps base rows pushed
  have hkept : (u.pushedBefore steps base rows pushed).snapshots.get? (snapshotKey base) =
      some (.ofRows rows pushed) := get?_pushedBefore hsteps hkey
  rw [← hvault] at hloads hnotes
  rw [← getSchema_ofBase hkey] at hloads
  have hanswer : (u.pushedBefore steps base rows pushed).answer settings base r now =
      .ok (respond settings r (selection s notes r ms) .snapshot rows.length rows) := by
    rw [answer, run_fst_of_live hlive, select_eq_ok hloads hnotes hm, hkept]
    rfl
  exact ⟨_, hanswer, showsPage_respond settings r _ rows⟩

/-- Whatever rows are pushed to a base that can be loaded, its live queries show them, exactly if the key
of the base is read as itself once more and what the query selects can be listed and sorted. -/
theorem shows_pushed_iff (hsteps : ∀ e ∈ steps, e.2.Keeps) (hlive : settings.liveEngine = true)
    (hevaluate : r.evaluate = true) (hloads : (u.after steps).vault.getSchema base = .ok s)
    (pushed now : Int) :
    (∀ rows, ∃ a, (u.pushedBefore steps base rows pushed).answer settings base r now = .ok a ∧
        ShowsPage rows a) ↔
      Path.ofBase (Path.ofBase base) = Path.ofBase base ∧
        ∃ notes ms, (u.after steps).vault.listNotes = .ok notes ∧ matching s notes r = some ms := by
  have hboth : (r.evaluate && settings.liveEngine) = true :=
    Bool.and_eq_true_iff.mpr ⟨hevaluate, hlive⟩
  constructor
  · intro h
    have hkey : snapshotKey base = Path.ofBase base := by
      by_contra hkey
      -- the answer is the same for no row and for one
      obtain ⟨a, ha, hnone⟩ := h []
      obtain ⟨b, hb, hone⟩ := h [⟨[], [], .empty, none⟩]
      rw [answer_pushedBefore_of_ne hboth hkey] at ha hb
      have hab : a = b := Except.ok.inj (ha.symm.trans hb)
      have htotal := hone.total
      rw [← hab, hnone.total] at htotal
      exact Nat.zero_ne_one htotal
    refine ⟨hkey, ?_⟩
    obtain ⟨a, ha, -⟩ := h []
    have hvault := u.vault_pushedBefore steps base [] pushed
    rw [← getSchema_ofBase hkey, ← hvault] at hloads
    rw [← hvault, ← exists_select_iff hloads]
    exact exists_select_of_run ha
  · rintro ⟨hkey, notes, ms, hnotes, hm⟩ rows
    exact exists_answer_pushedBefore hsteps hboth hkey hloads hnotes hm

end Sorter

/-- The base is asked for all of its notes, and one of them is written anew. -/
def askedThenWritten : List (Int × Step) :=
  [(1, .ask { liveEngine := true } "T" { evaluate := true }), (2, .edit (.write "a.md" "new"))]

/-- The large notes, the largest first. -/
def largeNotes : Request :=
  { view := some "large", sort := some [.record "x" (some "desc")], evaluate := true }

theorem shows_pushed_iff_largeNotes :
    let u : Session := ⟨fiveNotes, .empty⟩
    (∀ e ∈ askedThenWritten, e.2.Keeps) ∧
      ∃ s, (u.after askedThenWritten).vault.getSchema "./T" = .ok s ∧
        Path.ofBase (Path.ofBase "./T") = Path.ofBase "./T" ∧
        (∃ notes ms, (u.after askedThenWritten).vault.listNotes = .ok notes ∧
          matching s notes largeNotes = some ms) ∧
        ∀ rows, ∃ a, (u.pushedBefore askedThenWritten "./T" rows 0).answer { liveEngine := true }
          "./T" largeNotes 4 = .ok a ∧ ShowsPage rows a := by
  intro u
  have hkeeps : ∀ e ∈ askedThenWritten, e.2.Keeps := by decide
  obtain ⟨s, hloads⟩ : ∃ s, (u.after askedThenWritten).vault.getSchema "./T" = .ok s :=
    exists_of_isOk (by decide +kernel)
  have hkey : Path.ofBase (Path.ofBase "./T") = Path.ofBase "./T" := by decide
  have hpaths : (u.after askedThenWritten).vault.listPaths "md" =
      ["a.md".toList, "b.md".toList, "c.md".toList, "d.md".toList, "e.md".toList] :=
    Vault.listPaths_of_pairwise (by decide +kernel) (by decide +kernel) (by decide +kernel)
  have hsorted : ∃ notes ms, (u.after askedThenWritten).vault.listNotes = .ok notes ∧
      matching s notes largeNotes = some ms := by
    refine ⟨_, _, Vault.listNotes_eq_ok_iff.mpr ⟨?_, rfl⟩, rfl⟩
    rw [hpaths]
    decide +kernel
  refine ⟨hkeeps, s, hloads, hkey, hsorted, ?_⟩
  exact (shows_pushed_iff hkeeps rfl rfl hloads 0 4).mpr ⟨hkey, hsorted⟩

/-- A vault with an empty base and no note. -/
def noNote : Session := ⟨⟨"vault", ⟨.ofList [("vault/T.base", [])], .empty⟩⟩, .empty⟩

/-- The slash behind the step `./` is left in place, so that the rows are kept under a key that no query
of the base looks for. -/
theorem not_shows_pushed_respelled :
    (∃ s, (noNote.after []).vault.getSchema ".//T" = .ok s) ∧
      ((noNote.pushedBefore [] ".//T" [⟨"a.md", "a.md", .empty, none⟩] 0).answer
        { liveEngine := true } ".//T" { evaluate := true } 1).toOption.map Response.total = some 0 ∧
      ¬∃ a, (noNote.pushedBefore [] ".//T" [⟨"a.md", "a.md", .empty, none⟩] 0).answer
        { liveEngine := true } ".//T" { evaluate := true } 1 = .ok a ∧
          ShowsPage [⟨"a.md", "a.md", .empty, none⟩] a := by
  have htotal : ((noNote.pushedBefore [] ".//T" [⟨"a.md", "a.md", .empty, none⟩] 0).answer
      { liveEngine := true } ".//T" { evaluate := true } 1).toOption.map Response.total =
        some 0 := by decide +kernel
  refine ⟨exists_of_isOk (by decide +kernel), htotal, ?_⟩
  rintro ⟨a, ha, hshows⟩
  rw [ha] at htotal
  have hzero : a.total = 0 := Option.some.inj htotal
  have hone : a.total = 1 := hshows.total
  omega

end NoteVault.Session
