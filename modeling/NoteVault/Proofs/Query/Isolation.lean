import NoteVault.Proofs.Query.Paging
import NoteVault.Proofs.Query.Session

/-! Isolation: once a live query of a base is answered, its later live queries show pages of the same
rows, whatever is written or asked in between. -/

namespace NoteVault.Session

open Query

/-- Whether a query gets an answer at some point of a session that no snapshot is brought into. -/
def AnswersLater [Sorting.Sorter] (u : Session) (settings : Settings) (base : Text) (r : Request)
    (a : Response) : Prop :=
  ∃ steps now, (∀ e ∈ steps, e.2.Keeps) ∧ (u.after steps).answer settings base r now = .ok a

/-- The live queries of a base show pages of some rows from now on, and pages of one length show all of
these rows together, each at whatever point it is asked for. -/
structure Isolated [Sorting.Sorter] (u : Session) (base : Text) (rows : List Row) : Prop where
  shown : ∀ settings r a, settings.liveEngine = true → r.evaluate = true →
    u.AnswersLater settings base r a → ShowsPage rows a
  whole : ∀ settings limit, settings.liveEngine = true →
    settings.maxLimit < 0x8000000000000000 → settings.maxPage < 0x8000000000000000 →
    1 ≤ limit → limit ≤ settings.maxLimit → pageCount rows.length limit ≤ settings.maxPage →
    ∀ answers : Nat → Response,
      (∀ i < pageCount rows.length limit, ∃ r, r.evaluate = true ∧
        u.AnswersLater settings base (askPage r limit (i + 1)) (answers i)) →
      (List.range (pageCount rows.length limit)).flatMap (fun i => (answers i).rows) = rows

section Answer

variable [Sorting.Sorter] {u : Session} {settings : Settings} {base : Text} {r : Request}
  {kept : Snapshot} {a : Response}

section Kept

variable (hkept : u.snapshots.get? (snapshotKey base) = some kept)

include hkept

/-- Every later live query finds the snapshot that is kept. -/
theorem eq_respond_of_answersLater (hlive : (r.evaluate && settings.liveEngine) = true)
    (ha : u.AnswersLater settings base r a) :
    ∃ s, respond settings r s .snapshot kept.total kept.rows = a := by
  obtain ⟨steps, now, hsteps, hanswer⟩ := ha
  have hlater := get?_after_of_kept hsteps hkept
  obtain ⟨s, hs⟩ := exists_select_of_run hanswer
  rw [answer, run_fst_of_live hlive, hlater, hs] at hanswer
  exact ⟨s, Except.ok.inj hanswer⟩

theorem isolated_of_kept (hcount : kept.total = kept.rows.length) : u.Isolated base kept.rows := by
  constructor
  · intro settings r a hlive hevaluate ha
    have hboth : (r.evaluate && settings.liveEngine) = true :=
      Bool.and_eq_true_iff.mpr ⟨hevaluate, hlive⟩
    obtain ⟨s, rfl⟩ := eq_respond_of_answersLater hkept hboth ha
    rw [hcount]
    exact showsPage_respond settings r s kept.rows
  · intro settings limit hlive hlimit hpage hl hl' hpages answers hanswers
    apply flatMap_pages _ hl
    intro i hi
    obtain ⟨r, hevaluate, ha⟩ := hanswers i hi
    have hboth : ((askPage r limit (i + 1)).evaluate && settings.liveEngine) = true :=
      Bool.and_eq_true_iff.mpr ⟨hevaluate, hlive⟩
    obtain ⟨s, hs⟩ := eq_respond_of_answersLater hkept hboth ha
    have hnumber : i + 1 ≤ settings.maxPage := by omega
    rw [← hs, respond_askPage hlimit hpage hl hl' (Nat.succ_pos i) hnumber]

end Kept

/-- A live query that is answered shows a page of the snapshot that it leaves. -/
theorem exists_kept_of_answer {now : Int} (hlive : (r.evaluate && settings.liveEngine) = true)
    (ha : u.answer settings base r now = .ok a) :
    ∃ kept s, (u.step now (.ask settings base r)).snapshots.get? (snapshotKey base) = some kept ∧
      respond settings r s .snapshot kept.total kept.rows = a := by
  obtain ⟨s, hs⟩ := exists_select_of_run ha
  rw [answer, run_fst_of_live hlive, hs] at ha
  have hfresh : fresh? u.vault settings base r now = some (.ofRows (s.rows true) now) := by
    rw [fresh?, if_pos hlive, hs]
    rfl
  refine ⟨_, s, ?_, Except.ok.inj ha⟩
  change (run u.vault u.snapshots settings base r now).2.get? (snapshotKey base) = _
  rw [get?_run, if_pos rfl, hfresh]
  cases u.snapshots.get? (snapshotKey base) with
  | none => rfl
  | some old => rfl

/-- After the first live query of a base that is answered, the base is isolated from what is written. -/
theorem isolated_of_answer (hempty : u.snapshots = .empty) {before : List (Int × Step)}
    (hbefore : ∀ e ∈ before, e.2.Keeps) (hlive : settings.liveEngine = true)
    (hevaluate : r.evaluate = true) {now : Int}
    (ha : (u.after before).answer settings base r now = .ok a) :
    ∃ rows, ShowsPage rows a ∧
      (u.after (before ++ [(now, .ask settings base r)])).Isolated base rows := by
  have hboth : (r.evaluate && settings.liveEngine) = true :=
    Bool.and_eq_true_iff.mpr ⟨hevaluate, hlive⟩
  obtain ⟨kept, s, hkept, hshown⟩ := exists_kept_of_answer hboth ha
  have hnone : u.snapshots.Counted := by
    intro key old hold
    rw [hempty] at hold
    contradiction
  have hasked : ((u.after before).step now (.ask settings base r)).snapshots.Counted :=
    Step.counted_snapshots trivial (counted_after hbefore hnone)
  have hcount : kept.total = kept.rows.length := hasked _ kept hkept
  rw [hcount] at hshown
  refine ⟨kept.rows, ?_, ?_⟩
  · rw [← hshown]
    exact showsPage_respond settings r s kept.rows
  · rw [after_append]
    exact isolated_of_kept hkept hcount

end Answer

/-- The one note of the vault is shown by every later live query, also after the base asks for none. -/
theorem isolated_of_answer_rewriting :
    ∃ a rows, (beginning.after []).answer { liveEngine := true } "T" { evaluate := true } 0 = .ok a ∧
      a.total = 1 ∧ ShowsPage rows a ∧
      (beginning.after ([] ++ [(0, .ask { liveEngine := true } "T" { evaluate := true })])).Isolated
        "T" rows ∧
      (∀ e ∈ rewriting, e.2.Keeps) ∧
      (((beginning.after [(0, .ask { liveEngine := true } "T" { evaluate := true })]).after
        rewriting).answer { liveEngine := true } "T" { evaluate := true } 4).toOption.map
          Response.total = some 1 ∧
      (((beginning.after [(0, .ask { liveEngine := true } "T" { evaluate := true })]).after
        rewriting).answer {} "T" { evaluate := true } 4).toOption.map Response.total = some 0 := by
  obtain ⟨a, ha⟩ : ∃ a, (beginning.after []).answer { liveEngine := true } "T"
      { evaluate := true } 0 = .ok a := exists_of_isOk (by decide +kernel)
  have htotal : ((beginning.after []).answer { liveEngine := true } "T"
      { evaluate := true } 0).toOption.map Response.total = some 1 := by decide +kernel
  rw [ha] at htotal
  have hbefore : ∀ e ∈ ([] : List (Int × Step)), e.2.Keeps := by simp
  obtain ⟨rows, hrows, hisolated⟩ := isolated_of_answer rfl hbefore rfl rfl ha
  exact ⟨a, rows, ha, Option.some.inj htotal, hrows, hisolated, keeps_rewriting, by decide +kernel,
    by decide +kernel⟩

end NoteVault.Session
