import Mathlib.Data.List.Forall2
import NoteVault.Proofs.Query.Selection

/-! Runs of evaluated queries of one base that are answered from its snapshot. The first one leaves
a snapshot of what it selects, and each later one shows a page of that. -/

namespace NoteVault.Query

/-- A query, the base it names and when it is asked. -/
structure Call where
  base : Text
  request : Request
  now : Int

section Answers

variable [Sorting.Sorter]

/-- The answers to some queries; each of them finds the snapshots that those before it leave. -/
def answers (v : Vault) (settings : Settings) :
    Snapshots → List Call → List (Except Fault Response)
  | _, [] => []
  | cache, c :: cs =>
    let answered := run v cache settings c.base c.request c.now
    answered.1 :: answers v settings answered.2 cs

/-- The answer to a query if no query is answered from a snapshot. -/
def vaultAnswer (v : Vault) (cache : Snapshots) (settings : Settings) (c : Call) :
    Except Fault Response :=
  (run v cache { settings with liveEngine := false } c.base c.request c.now).1

/-- The first one of some queries that is answered if no query is answered from a snapshot. -/
def firstAnswered (v : Vault) (cache : Snapshots) (settings : Settings) (calls : List Call) :
    Option Call :=
  calls.find? fun c => (vaultAnswer v cache settings c).isOk

end Answers

/-- Two requests differ at most in how they cut what they select into pages. -/
structure SameChoice (r q : Request) : Prop where
  view : r.view = q.view
  filter : r.filter = q.filter
  sort : r.sort = q.sort

/-- An answer to a query of a run of which some first one is answered, if any is. The query fails as from
the vault, because none of its base is answered or because its own keys do not order its notes, or the
answer shows a page of what the first one selects. -/
inductive FollowsFirst [Sorting.Sorter] (v : Vault) (cache : Snapshots) (settings : Settings)
    (first : Option Call) (c : Call) : Except Fault Response → Prop where
  | unread {f : Fault}
      (all_fail : ∀ r, vaultAnswer v cache settings { c with request := r } = .error f) :
      FollowsFirst v cache settings first c (.error f)
  | unsorted {s : Schema} {notes : List Note} (schema : v.getSchema (Path.ofBase c.base) = .ok s)
      (listed : v.listNotes = .ok notes) (not_ordered : ¬Ordered s notes c.request)
      (fails : vaultAnswer v cache settings c = .error .unsorted) :
      FollowsFirst v cache settings first c (.error .unsorted)
  | shown {d : Call} {s t : Selection} {own : Response} (first_answered : first = some d)
      (first_selects : select v d.base d.request = .ok s)
      (selects : select v c.base c.request = .ok t)
      (answered : vaultAnswer v cache settings c = .ok own)
      (same_choice : SameChoice c.request d.request → t.notes = s.notes)
      (same_rows : t.notes = s.notes →
        page (s.rows true) own.page own.limit = own.rows ∧ s.notes.length = own.total) :
      FollowsFirst v cache settings first c (.ok { own with
        source := .snapshot, total := s.notes.length
        rows := page (s.rows true) own.page own.limit })

theorem find?_push (cache : Snapshots) (key : Text) (rows : List Row) (now : Int) :
    Snapshots.find? (Snapshots.push cache key rows now) key = some (.ofRows rows now) := by
  rw [Snapshots.find?, get?_push, if_pos rfl]

section Runs

variable [Sorting.Sorter] {v : Vault} {cache : Snapshots} {settings : Settings} {base : Text}
  {calls : List Call}

theorem select_eq_of_sameChoice {r q : Request} (h : SameChoice r q) :
    select v base r = select v base q := by
  unfold select filter sortKeys
  rw [h.view, h.filter, h.sort]

theorem vaultAnswer_eq (v : Vault) (cache : Snapshots) (settings : Settings) (c : Call) :
    vaultAnswer v cache settings c = (select v c.base c.request).map fun s =>
      respond settings c.request s .vault s.notes.length (s.rows c.request.evaluate) := by
  rw [vaultAnswer, run_eq_of_not_live (Bool.and_false _)]
  rfl

theorem isOk_vaultAnswer (v : Vault) (cache : Snapshots) (settings : Settings) (c : Call) :
    (vaultAnswer v cache settings c).isOk = (select v c.base c.request).isOk := by
  rw [vaultAnswer_eq]
  cases select v c.base c.request <;> rfl

theorem followsFirst_of_error {c : Call} {f : Fault} (first : Option Call)
    (h : select v c.base c.request = .error f) :
    FollowsFirst v cache settings first c (.error f) := by
  rcases select_eq_error h with hall | ⟨rfl, s, notes, hs, hn, hordered⟩
  · refine .unread fun r => ?_
    rw [vaultAnswer_eq, hall r]
    rfl
  · refine .unsorted hs hn hordered ?_
    rw [vaultAnswer_eq, h]
    rfl

/-- The snapshot that is kept stays, so a whole run is answered from it. -/
theorem answers_of_kept (hlive : settings.liveEngine = true) {kept : Snapshot}
    (hkept : Snapshots.find? cache (Path.ofBase base) = some kept)
    (hcalls : ∀ c ∈ calls, Path.ofBase c.base = Path.ofBase base ∧ c.request.evaluate = true) :
    answers v settings cache calls = calls.map fun c => (select v c.base c.request).map fun t =>
      respond settings c.request t .snapshot kept.total kept.rows := by
  induction calls with
  | nil => rfl
  | cons c cs ih =>
    obtain ⟨hbase, hevaluate⟩ := hcalls c List.mem_cons_self
    have hc : (c.request.evaluate && settings.liveEngine) = true := by
      rw [hevaluate, hlive]
      rfl
    have hc' : Snapshots.find? cache (Path.ofBase c.base) = some kept := by
      rw [hbase]
      exact hkept
    rw [answers, run_eq_of_kept hc hc', List.map_cons]
    rw [ih fun d hd => hcalls d (List.mem_cons_of_mem c hd)]

theorem answers_of_fresh (hlive : settings.liveEngine = true) {first : Call} {rest : List Call}
    (hnone : Snapshots.find? cache (Path.ofBase base) = none)
    (hcalls : ∀ c ∈ first :: rest, Path.ofBase c.base = Path.ofBase base ∧
      c.request.evaluate = true)
    {s : Selection} (hs : select v first.base first.request = .ok s) :
    answers v settings cache (first :: rest) =
      (first :: rest).map fun c => (select v c.base c.request).map fun t =>
        respond settings c.request t .snapshot s.notes.length (s.rows true) := by
  obtain ⟨hbase, hevaluate⟩ := hcalls first List.mem_cons_self
  have hfirst : (first.request.evaluate && settings.liveEngine) = true := by
    rw [hevaluate, hlive]
    rfl
  rw [← hbase] at hnone hcalls
  have hrest := answers_of_kept (v := v) hlive
    (find?_push cache (Path.ofBase first.base) (s.rows true) first.now)
    fun c hc => hcalls c (List.mem_cons_of_mem first hc)
  rw [answers, run_eq_of_fresh hfirst hnone hs, List.map_cons, hs, hrest]
  simp [Snapshot.ofRows, length_rows, Except.map]

theorem followsFirst_of_select {c d : Call} {s : Selection}
    (hbase : Path.ofBase c.base = Path.ofBase d.base)
    (hevaluate : c.request.evaluate = true) (hs : select v d.base d.request = .ok s) :
    FollowsFirst v cache settings (some d) c ((select v c.base c.request).map fun t =>
      respond settings c.request t .snapshot s.notes.length (s.rows true)) := by
  cases ht : select v c.base c.request with
  | error f => exact followsFirst_of_error _ ht
  | ok t =>
    -- Both requests select from the same notes under the same schema.
    obtain ⟨schema, notes, ms, hschema, hnotes, -, rfl⟩ := exists_of_select hs
    obtain ⟨schema', notes', ms', hschema', hnotes', -, rfl⟩ := exists_of_select ht
    rw [hbase] at hschema'
    obtain rfl := Except.ok.inj (hschema.symm.trans hschema')
    obtain rfl := Except.ok.inj (hnotes.symm.trans hnotes')
    have hown := vaultAnswer_eq v cache settings c
    rw [ht, hevaluate] at hown
    refine .shown rfl hs ht hown (fun hchoice => ?_) fun hsame => ?_
    · rw [select_congr hbase, select_eq_of_sameChoice hchoice, hs] at ht
      exact congrArg Selection.notes (Except.ok.inj ht).symm
    · obtain rfl : ms' = ms := hsame
      exact ⟨rfl, rfl⟩

/-- Of some evaluated queries of a base without a snapshot, each one fails as it does from the vault or
shows a page of what the first one that is answered selects. Where that is what it selects itself, it is
answered as from the vault. -/
theorem forall_followsFirst (hlive : settings.liveEngine = true)
    (hnone : Snapshots.find? cache (Path.ofBase base) = none)
    (hcalls : ∀ c ∈ calls, Path.ofBase c.base = Path.ofBase base ∧ c.request.evaluate = true) :
    List.Forall₂ (FollowsFirst v cache settings (firstAnswered v cache settings calls)) calls
      (answers v settings cache calls) := by
  induction calls with
  | nil => exact .nil
  | cons c cs ih =>
    cases hs : select v c.base c.request with
    | error f =>
      have hskip : firstAnswered v cache settings (c :: cs) = firstAnswered v cache settings cs := by
        refine List.find?_cons_of_neg ?_
        rw [isOk_vaultAnswer, hs]
        exact Bool.false_ne_true
      have hrest := ih fun d hd => hcalls d (List.mem_cons_of_mem c hd)
      rw [hskip, answers, run_eq_of_error hs]
      exact .cons (followsFirst_of_error _ hs) hrest
    | ok s =>
      have hfirst : firstAnswered v cache settings (c :: cs) = some c := by
        refine List.find?_cons_of_pos ?_
        rw [isOk_vaultAnswer, hs]
        rfl
      rw [hfirst, answers_of_fresh hlive hnone hcalls hs, List.forall₂_map_right_iff,
        List.forall₂_same]
      intro d hd
      have hbase := (hcalls d hd).1.trans (hcalls c List.mem_cons_self).1.symm
      exact followsFirst_of_select hbase (hcalls d hd).2 hs

end Runs

/-- All notes sorted by `x`, then those whose `x` is large, then all of them without an order. -/
def sortedThenAll : List Call :=
  [⟨"T", { evaluate := true, sort := some [.text "x"] }, 0⟩,
    ⟨"T", { view := some "large", evaluate := true, sort := some [.text "x"] }, 1⟩,
    ⟨"/T", { evaluate := true }, 2⟩]

/-- The first sort stops. The last answer shows what the second query selects, as that is the first one
that is answered. -/
theorem forall_followsFirst_sortedThenAll :
    let _ : Sorting.Sorter := Sorting.strict
    let live : Settings := { liveEngine := true }
    let paths (a : Except Fault Response) : Option (Source × List Text) :=
      a.toOption.map fun a => (a.source, a.rows.map Row.path)
    (Snapshots.find? .empty (Path.ofBase "T") = none ∧
      ∀ c ∈ sortedThenAll, Path.ofBase c.base = Path.ofBase "T" ∧ c.request.evaluate = true) ∧
    List.Forall₂ (FollowsFirst fiveNotes .empty live (firstAnswered fiveNotes .empty live sortedThenAll))
        sortedThenAll (answers fiveNotes live .empty sortedThenAll) ∧
      (answers fiveNotes live .empty sortedThenAll).map paths =
        [none, some (.snapshot, ["d.md".toList, "c.md".toList]),
          some (.snapshot, ["d.md".toList, "c.md".toList, "a.md".toList])] ∧
      sortedThenAll.map (fun c => paths (vaultAnswer fiveNotes .empty live c)) =
        [none, some (.vault, ["d.md".toList, "c.md".toList]),
          some (.vault, ["a.md".toList, "b.md".toList, "c.md".toList, "d.md".toList])] := by
  intro _ live paths
  have hcalls : ∀ c ∈ sortedThenAll, Path.ofBase c.base = Path.ofBase "T" ∧
      c.request.evaluate = true := by simp [sortedThenAll]; decide
  refine ⟨⟨rfl, hcalls⟩, forall_followsFirst rfl rfl hcalls, ?_, ?_⟩
  · simp only [sortedThenAll, answers, run, select, listNotes_fiveNotes]
    decide +kernel
  · simp only [sortedThenAll, List.map, vaultAnswer, run, select, listNotes_fiveNotes]
    decide +kernel

/-- Two evaluated queries of one base, of which the second one asks for no note. -/
def allThenNone : List Call :=
  [⟨"T", { evaluate := true }, 0⟩, ⟨"T", { evaluate := true, filter := some (.any []) }, 0⟩]

theorem find?_empty_allThenNone :
    Snapshots.find? .empty (Path.ofBase "T") = none ∧
      ∀ c ∈ allThenNone, Path.ofBase c.base = Path.ofBase "T" ∧ c.request.evaluate = true := by
  refine ⟨rfl, ?_⟩
  simp [allThenNone]

/-- The second answer still shows the note that the first one selects. -/
theorem totals_allThenNone :
    (Snapshots.find? .empty (Path.ofBase "T") = none ∧
      ∀ c ∈ allThenNone, Path.ofBase c.base = Path.ofBase "T" ∧ c.request.evaluate = true) ∧
    (answers oneNote { liveEngine := true } .empty allThenNone).map
        (fun a => a.toOption.map Response.total) = [some 1, some 1] ∧
      allThenNone.map (fun c =>
        (vaultAnswer oneNote .empty { liveEngine := true } c).toOption.map Response.total) =
          [some 1, some 0] := by
  refine ⟨find?_empty_allThenNone, ?_, ?_⟩
  · decide +kernel
  · decide +kernel

end NoteVault.Query
