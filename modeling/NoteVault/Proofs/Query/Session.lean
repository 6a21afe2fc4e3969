import NoteVault.Proofs.Query.Selection
import NoteVault.Proofs.Upsert.Run
import NoteVault.Vault.Settings

/-! Sessions: a vault and its snapshots under writes, queries and pushes that come one after the other.
A query looks at one snapshot only, that under the key of its base, and makes one there if there is
none; nothing but a push or a put replaces it. -/

namespace NoteVault

theorem exists_of_isOk {α : Type} {x : Except Fault α} (h : x.isOk = true) : ∃ a, x = .ok a := by
  cases x with
  | error f => contradiction
  | ok a => exact ⟨a, rfl⟩

namespace Query

/-- The key under which a query looks for the snapshot of a base. -/
def snapshotKey (base : Text) : Text := Path.ofBase (Path.ofBase base)

/-- The snapshot that a query leaves if it finds none. -/
def fresh? [Sorting.Sorter] (v : Vault) (settings : Settings) (base : Text) (r : Request) (now : Int) :
    Option Snapshot :=
  if r.evaluate && settings.liveEngine then
    (select v base r).toOption.map fun s => .ofRows (s.rows true) now
  else none

section Run

variable [Sorting.Sorter] {v : Vault} {cache : Snapshots} {settings : Settings} {base : Text}
  {r : Request} {now : Int}

theorem exists_select_iff {s : Schema} (hs : v.getSchema (Path.ofBase base) = .ok s) :
    (∃ sel, select v base r = .ok sel) ↔
      ∃ notes ms, v.listNotes = .ok notes ∧ matching s notes r = some ms := by
  constructor
  · rintro ⟨sel, hsel⟩
    obtain ⟨s', notes, ms, hs', hnotes, hm, -⟩ := exists_of_select hsel
    obtain rfl := Except.ok.inj (hs.symm.trans hs')
    exact ⟨notes, ms, hnotes, hm⟩
  · rintro ⟨notes, ms, hnotes, hm⟩
    exact ⟨_, select_eq_ok hs hnotes hm⟩

theorem get?_run (key : Text) : (run v cache settings base r now).2.get? key =
    if key = snapshotKey base then (cache.get? key).or (fresh? v settings base r now)
    else cache.get? key := by
  by_cases hlive : (r.evaluate && settings.liveEngine) = true
  · cases hs : select v base r with
    | error f =>
      have hfresh : fresh? v settings base r now = none := by
        rw [fresh?, if_pos hlive, hs]
        rfl
      rw [run_eq_of_error hs, hfresh, Option.or_none, ite_self]
    | ok s =>
      have hfresh : fresh? v settings base r now = some (.ofRows (s.rows true) now) := by
        rw [fresh?, if_pos hlive, hs]
        rfl
      cases hkept : Snapshots.find? cache (Path.ofBase base) with
      | some kept =>
        have hget : cache.get? (snapshotKey base) = some kept := hkept
        rw [run_eq_of_kept hlive hkept]
        by_cases hkey : key = snapshotKey base
        · rw [if_pos hkey, hkey, hget]
          rfl
        · rw [if_neg hkey]
      | none =>
        have hget : cache.get? (snapshotKey base) = none := hkept
        have hpush : (Snapshots.push cache (Path.ofBase base) (s.rows true) now).get? key =
            if key = snapshotKey base then some (.ofRows (s.rows true) now) else cache.get? key :=
          get?_push cache (Path.ofBase base) key (s.rows true) now
        rw [run_eq_of_fresh hlive hkept hs, hpush, hfresh]
        by_cases hkey : key = snapshotKey base
        · rw [if_pos hkey, if_pos hkey, hkey, hget]
          rfl
        · rw [if_neg hkey, if_neg hkey]
  · have hnot : (r.evaluate && settings.liveEngine) = false := by simpa using hlive
    have hfresh : fresh? v settings base r now = none := if_neg hlive
    rw [run_eq_of_not_live hnot, hfresh, Option.or_none, ite_self]

theorem run_fst_of_live (hlive : (r.evaluate && settings.liveEngine) = true) :
    (run v cache settings base r now).1 = (select v base r).map fun s =>
      let kept := (cache.get? (snapshotKey base)).getD (.ofRows (s.rows true) now)
      respond settings r s .snapshot kept.total kept.rows := by
  cases hkept : Snapshots.find? cache (Path.ofBase base) with
  | some kept =>
    have hget : cache.get? (snapshotKey base) = some kept := hkept
    rw [run_eq_of_kept hlive hkept, hget]
    rfl
  | none =>
    have hget : cache.get? (snapshotKey base) = none := hkept
    cases hs : select v base r with
    | error f =>
      rw [run_eq_of_error hs]
      rfl
    | ok s =>
      rw [run_eq_of_fresh hlive hkept hs, hget, ← length_rows s true]
      rfl

end Run

/-- Whether an answer counts some rows and shows its page of them, as one from a snapshot. -/
structure ShowsPage (rows : List Row) (a : Response) : Prop where
  source : a.source = .snapshot
  total : a.total = rows.length
  part : a.rows = rows.extract ((a.page - 1) * a.limit) ((a.page - 1) * a.limit + a.limit)

theorem showsPage_respond (settings : Settings) (r : Request) (s : Selection) (rows : List Row) :
    ShowsPage rows (respond settings r s .snapshot rows.length rows) := by
  refine ⟨rfl, rfl, ?_⟩
  rw [List.extract_eq_take_drop, Nat.add_sub_cancel_left]
  rfl

end Query

/-- Whether each snapshot counts its own rows. -/
def Snapshots.Counted (c : Snapshots) : Prop :=
  ∀ key s, c.get? key = some s → s.total = s.rows.length

structure Session where
  vault : Vault
  snapshots : Snapshots

namespace Session

/-- A step of a session that may change its vault or its snapshots. -/
inductive Step where
  | edit (op : Op)
  | writeBase (base raw : Text)
  | saveSettings (s : Settings)
  | ask (settings : Settings) (base : Text) (r : Request)
  | push (base : Text) (rows : List Row)
  | put (base : Text) (s : Snapshot)

namespace Step

def vault (v : Vault) (now : Int) : Step → Vault
  | .edit op => op.run v now
  | .writeBase base raw => (v.writeBase base raw).2
  | .saveSettings s => (v.saveSettings s).2
  | .ask _ _ _ | .push _ _ | .put _ _ => v

def snapshots [Sorting.Sorter] (v : Vault) (cache : Snapshots) (now : Int) : Step → Snapshots
  | .edit _ | .writeBase _ _ | .saveSettings _ => cache
  | .ask settings base r => (Query.run v cache settings base r now).2
  | .push base rows => Snapshots.push cache base rows now
  | .put base s => Snapshots.put cache base s

/-- Whether a step brings no snapshot from outside. -/
def Keeps : Step → Prop
  | .push _ _ | .put _ _ => False
  | _ => True

instance : DecidablePred Keeps
  | .push _ _ | .put _ _ => .isFalse id
  | .edit _ | .writeBase _ _ | .saveSettings _ | .ask _ _ _ => .isTrue trivial

section Snapshots

variable [Sorting.Sorter] {v : Vault} {c d : Snapshots} {now : Int} {s : Step} {key : Text}

theorem get?_snapshots_of_kept (hs : s.Keeps) {kept : Snapshot} (h : c.get? key = some kept) :
    (s.snapshots v c now).get? key = some kept := by
  cases s with
  | edit op => exact h
  | writeBase base raw => exact h
  | saveSettings settings => exact h
  | ask settings base r =>
    change (Query.run v c settings base r now).2.get? key = some kept
    rw [Query.get?_run, h, Option.some_or, ite_self]
  | push base rows => exact hs.elim
  | put base snapshot => exact hs.elim

/-- What becomes of the snapshot under a key does not depend on those under other keys. -/
theorem get?_snapshots_congr (s : Step) (h : c.get? key = d.get? key) :
    (s.snapshots v c now).get? key = (s.snapshots v d now).get? key := by
  cases s with
  | edit op => exact h
  | writeBase base raw => exact h
  | saveSettings settings => exact h
  | ask settings base r =>
    change (Query.run v c settings base r now).2.get? key =
      (Query.run v d settings base r now).2.get? key
    rw [Query.get?_run, Query.get?_run, h]
  | push base rows =>
    change (Snapshots.push c base rows now).get? key = (Snapshots.push d base rows now).get? key
    rw [Query.get?_push, Query.get?_push, h]
  | put base snapshot =>
    change (c.insert _ snapshot).get? key = (d.insert _ snapshot).get? key
    rw [Index.get?_insert, Index.get?_insert, h]

theorem counted_snapshots (hs : s.Keeps) (h : c.Counted) : (s.snapshots v c now).Counted := by
  cases s with
  | edit op => exact h
  | writeBase base raw => exact h
  | saveSettings settings => exact h
  | ask settings base r =>
    intro key kept hkept
    change (Query.run v c settings base r now).2.get? key = some kept at hkept
    rw [Query.get?_run] at hkept
    cases hold : c.get? key with
    | some old =>
      rw [hold, Option.some_or, ite_self] at hkept
      exact h key kept (hold.trans hkept)
    | none =>
      rw [hold, Option.none_or] at hkept
      by_cases hkey : key = Query.snapshotKey base
      · rw [if_pos hkey] at hkept
        unfold Query.fresh? at hkept
        split_ifs at hkept
        obtain ⟨sel, -, hrows⟩ := Option.map_eq_some_iff.mp hkept
        rw [← hrows]
        rfl
      · rw [if_neg hkey] at hkept
        contradiction
  | push base rows => exact hs.elim
  | put base snapshot => exact hs.elim

end Snapshots

end Step

section Sorter

variable [Sorting.Sorter]

def step (u : Session) (now : Int) (s : Step) : Session :=
  ⟨s.vault u.vault now, s.snapshots u.vault u.snapshots now⟩

/-- A session after some steps, each at its time. -/
def after : Session → List (Int × Step) → Session
  | u, [] => u
  | u, (now, s) :: steps => after (u.step now s) steps

def answer (u : Session) (settings : Settings) (base : Text) (r : Request) (now : Int) :
    Except Fault Response :=
  (Query.run u.vault u.snapshots settings base r now).1

variable {u : Session} {steps : List (Int × Step)} {key : Text}

theorem after_append (u : Session) (before later : List (Int × Step)) :
    u.after (before ++ later) = (u.after before).after later := by
  induction before generalizing u with
  | nil => rfl
  | cons e before ih => exact ih _

theorem vault_after_congr (v : Vault) (c d : Snapshots) (steps : List (Int × Step)) :
    ((Session.mk v c).after steps).vault = ((Session.mk v d).after steps).vault := by
  induction steps generalizing v c d with
  | nil => rfl
  | cons e steps ih => exact ih _ _ _

theorem get?_after_of_kept (hsteps : ∀ e ∈ steps, e.2.Keeps) {kept : Snapshot}
    (h : u.snapshots.get? key = some kept) : (u.after steps).snapshots.get? key = some kept := by
  induction steps generalizing u with
  | nil => exact h
  | cons e steps ih =>
    have hstep : (u.step e.1 e.2).snapshots.get? key = some kept :=
      Step.get?_snapshots_of_kept (hsteps e List.mem_cons_self) h
    exact ih (fun d hd => hsteps d (List.mem_cons_of_mem e hd)) hstep

theorem get?_after_congr {v : Vault} {c d : Snapshots} (h : c.get? key = d.get? key)
    (steps : List (Int × Step)) :
    ((Session.mk v c).after steps).snapshots.get? key =
      ((Session.mk v d).after steps).snapshots.get? key := by
  induction steps generalizing v c d with
  | nil => exact h
  | cons e steps ih => exact ih (e.2.get?_snapshots_congr h)

theorem counted_after (hsteps : ∀ e ∈ steps, e.2.Keeps) (h : u.snapshots.Counted) :
    (u.after steps).snapshots.Counted := by
  induction steps generalizing u with
  | nil => exact h
  | cons e steps ih =>
    have hstep : (u.step e.1 e.2).snapshots.Counted :=
      Step.counted_snapshots (hsteps e List.mem_cons_self) h
    exact ih (fun d hd => hsteps d (List.mem_cons_of_mem e hd)) hstep

end Sorter

/-- A vault with an empty base and an empty note, and no snapshot. -/
def beginning : Session := ⟨Query.oneNote, .empty⟩

/-- The note and the base are written anew, so that no note passes, and the base is asked. -/
def rewriting : List (Int × Step) :=
  [(1, .edit (.write "a.md" "new")), (2, .writeBase "T" "filters: {or: []}"),
    (3, .ask { liveEngine := true } "/T" { evaluate := true })]

theorem keeps_rewriting : ∀ e ∈ rewriting, e.2.Keeps := by decide

end Session

end NoteVault
