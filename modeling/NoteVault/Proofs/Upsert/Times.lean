import NoteVault.Proofs.Upsert.Guard
import NoteVault.Proofs.Upsert.Written

/-! The ledger over runs. A write changes the entry of its own path only, keeps when the note was
created, and makes the time of its last change later. -/

namespace NoteVault

/-- What a part of a run may make of the times of a note: a note stays without times, gets some, or
keeps when it was created. -/
inductive Stat.Grows : Option Stat → Option Stat → Prop
  | missing : Grows none none
  | created {t : Stat} (ordered : t.ctime ≤ t.mtime) : Grows none (some t)
  | kept {s t : Stat} (ctime : t.ctime = s.ctime) (mtime : s.mtime ≤ t.mtime) :
      Grows (some s) (some t)

namespace Stat.Grows

theorem refl (s : Option Stat) : Stat.Grows s s := by
  cases s with
  | none => exact .missing
  | some s => exact .kept rfl (Int.le_refl s.mtime)

theorem trans {r s t : Option Stat} (hrs : Stat.Grows r s) (hst : Stat.Grows s t) :
    Stat.Grows r t := by
  cases hrs with
  | missing => exact hst
  | created hordered =>
    cases hst with
    | kept hctime hmtime => exact .created (by omega)
  | kept hctime hmtime =>
    cases hst with
    | kept hctime' hmtime' => exact .kept (hctime'.trans hctime) (Int.le_trans hmtime hmtime')

end Stat.Grows

theorem Stat.grows_touch {before : Option Stat} (h : ∀ s ∈ before, s.mtime < Stat.lastTime)
    (now : Int) : Stat.Grows before (some (Stat.touch before now)) := by
  cases before with
  | none => exact .created (Int.le_refl now)
  | some s =>
    have hmtime := Stat.mtime_touch_eq (h s rfl) now
    exact .kept rfl (by omega)

namespace Op

variable {ops before later : List (Int × Op)} {op : Op} {v : Vault} {now : Int}

/-- Whether no entry of the ledger has the last time of all when a step of a run begins. -/
def Unexhausted : List (Int × Op) → Vault → Prop
  | [], _ => True
  | (now, op) :: ops, v =>
    (∀ e ∈ v.ledger.entries, e.2.mtime < Stat.lastTime) ∧ Unexhausted ops (op.run v now)

instance decidableUnexhausted : (ops : List (Int × Op)) → (v : Vault) → Decidable (Unexhausted ops v)
  | [], _ => .isTrue trivial
  | (now, op) :: ops, v =>
    have := decidableUnexhausted ops (op.run v now)
    inferInstanceAs (Decidable (_ ∧ _))

theorem after_append (before later : List (Int × Op)) (v : Vault) :
    after (before ++ later) v = after later (after before v) := by
  induction before generalizing v with
  | nil => rfl
  | cons e before ih => exact ih _

theorem keys_append (before later : List (Int × Op)) (v : Vault) :
    keys (before ++ later) v = keys before v ++ keys later (after before v) := by
  induction before generalizing v with
  | nil => rfl
  | cons e before ih => simp only [List.cons_append, keys, ih, List.append_assoc, after]

theorem root_after (ops : List (Int × Op)) (v : Vault) : (after ops v).root = v.root := by
  induction ops generalizing v with
  | nil => rfl
  | cons e ops ih => exact (ih _).trans (e.2.root_run v e.1)

theorem Apart.append (h : Apart (before ++ later) v) : Apart later (after before v) := by
  intro key hkey hledger
  rw [Vault.isLedger_congr (root_after before v)] at hledger
  rw [Apart, keys_append] at h
  exact h key (List.mem_append_right _ hkey) hledger

theorem unexhausted_append : Unexhausted (before ++ later) v ↔
    Unexhausted before v ∧ Unexhausted later (after before v) := by
  induction before generalizing v with
  | nil => exact (and_iff_right trivial).symm
  | cons e before ih =>
    simp only [List.cons_append, Unexhausted, ih, after, and_assoc]

/-- What an operation that is recorded under a path changes: the file of the note, that of the ledger,
and the entry of that path. -/
structure Records (u : Vault) (key : Text) (w : Vault) : Prop where
  others : ∀ q, q ≠ key → w.ledger.get? q = u.ledger.get? q
  files : ∀ s, Address.ofPath s ≠ u.address key → Address.ofPath s ≠ u.address Vault.ledgerPath →
    w.store.read? s = u.store.read? s
  later : ∃ t, w.ledger.get? key = some t ∧
    ∀ s, u.ledger.get? key = some s → t.ctime = s.ctime ∧ s.mtime < t.mtime

theorem lt_lastTime (h : ∀ e ∈ v.ledger.entries, e.2.mtime < Stat.lastTime) (q : Text) :
    ∀ s ∈ v.ledger.get? q, s.mtime < Stat.lastTime :=
  fun _ hs => h _ (Index.mem_of_get? hs)

theorem records_run {key : Text} (hkey : op.key? v now = some key) (hnow : isSigned64 now = true)
    (hledger : ¬v.IsLedger key) (hroom : ∀ e ∈ v.ledger.entries, e.2.mtime < Stat.lastTime) :
    Records v key (op.run v now) := by
  have hkeys : ∀ k ∈ op.key? v now, ¬v.IsLedger k := by
    intro k hk
    rw [hkey] at hk
    exact Option.some.inj hk ▸ hledger
  have hentry := get?_ledger_run hnow hkeys
  constructor
  · intro q hq
    rw [hentry q, hkey, if_neg]
    exact fun h => hq (Option.some.inj h).symm
  · intro s hnote hstat
    obtain ⟨hfile, bytes, hrun⟩ := run_eq_written hkey
    rw [hrun]
    exact Vault.read?_written hfile hnote hstat
  · refine ⟨Stat.touch (v.ledger.get? key) now, ?_, ?_⟩
    · rw [hentry key, if_pos hkey]
    · intro s hs
      have hlt := lt_lastTime hroom key s hs
      have hmtime := Stat.mtime_touch_eq hlt now
      rw [hs]
      exact ⟨rfl, by omega⟩

theorem grows_run (hnow : isSigned64 now = true) (hkey : ∀ key ∈ op.key? v now, ¬v.IsLedger key)
    (hroom : ∀ e ∈ v.ledger.entries, e.2.mtime < Stat.lastTime) (q : Text) :
    Stat.Grows (v.ledger.get? q) ((op.run v now).ledger.get? q) := by
  rw [get?_ledger_run hnow hkey]
  by_cases hq : op.key? v now = some q
  · rw [if_pos hq]
    exact Stat.grows_touch (lt_lastTime hroom q) now
  · rw [if_neg hq]
    exact .refl _

theorem grows_after (hclock : ∀ e ∈ ops, isSigned64 e.1 = true) (hapart : Apart ops v)
    (hroom : Unexhausted ops v) (q : Text) :
    Stat.Grows (v.ledger.get? q) ((after ops v).ledger.get? q) := by
  induction ops generalizing v with
  | nil => exact .refl _
  | cons e ops ih =>
    obtain ⟨now, op⟩ := e
    have hstep := grows_run (hclock _ List.mem_cons_self) hapart.head hroom.1 q
    have hrest := ih (fun d hd => hclock d (List.mem_cons_of_mem _ hd)) hapart.tail hroom.2
    exact hstep.trans hrest

/-- What a run does to a vault, step by step, and to the times of every path between any two of its
states. -/
structure Orderly (ops : List (Int × Op)) (v : Vault) : Prop where
  idle : ∀ before now op later, ops = before ++ (now, op) :: later →
    op.key? (after before v) now = none →
      (after before v).SameFiles (op.run (after before v) now) ∧
        (op.run (after before v) now).ledger = (after before v).ledger
  writes : ∀ before now op later key, ops = before ++ (now, op) :: later →
    op.key? (after before v) now = some key →
      Records (after before v) key (op.run (after before v) now)
  times : ∀ before middle later, ops = before ++ middle ++ later → ∀ q,
    Stat.Grows ((after before v).ledger.get? q) ((after (before ++ middle) v).ledger.get? q)

/-- Whatever the clock shows, a run that leaves the file of the ledger alone keeps the ledger in order
as long as no entry has the last time of all. -/
theorem orderly_of_unexhausted (hclock : ∀ e ∈ ops, isSigned64 e.1 = true) (hapart : Apart ops v)
    (hroom : Unexhausted ops v) : Orderly ops v := by
  constructor
  · rintro before now op later rfl hkey
    rcases op.run_cases (after before v) now with ⟨-, hsame⟩ | ⟨key, bytes, hsome, -⟩
    · exact ⟨hsame, hsame.ledger⟩
    · rw [hkey] at hsome
      contradiction
  · rintro before now op later key rfl hkey
    have hnow := hclock (now, op) (by simp)
    have hledger := hapart.append.head key hkey
    have hstep := (unexhausted_append.mp hroom).2.1
    exact records_run hkey hnow hledger hstep
  · rintro before middle later rfl q
    have hclock' : ∀ e ∈ middle, isSigned64 e.1 = true := by
      intro e he
      exact hclock e (by simp [he])
    have hapart' : Apart middle (after before v) := by
      rw [List.append_assoc] at hapart
      intro key hkey
      apply hapart.append key
      rw [keys_append]
      exact List.mem_append_left _ hkey
    have hroom' := (unexhausted_append.mp (unexhausted_append.mp hroom).1).2
    rw [after_append]
    exact grows_after hclock' hapart' hroom' q

/-- A note is written three times while the clock stands still and then goes back; the last call but
one changes nothing. -/
def clockGoingBack : List (Int × Op) :=
  [(5, .write "a/b.md" "new"), (5, .upsert ⟨"a/b.md", .ofList [("x", .int 1)], [], some 5⟩),
    (4, .upsert ⟨"a/b.md", .ofList [("x", .int 1)], [], none⟩),
    (3, .change "a/b.md" fun m => m.erase "x")]

theorem orderly_clockGoingBack :
    (∀ e ∈ clockGoingBack, isSigned64 e.1 = true) ∧ Apart clockGoingBack Upsert.folderNote ∧
      Unexhausted clockGoingBack Upsert.folderNote ∧
      (after clockGoingBack Upsert.folderNote).ledger.get? "a/b.md" = some ⟨5, 7⟩ ∧
      Orderly clockGoingBack Upsert.folderNote := by
  have hclock : ∀ e ∈ clockGoingBack, isSigned64 e.1 = true := by decide
  have hapart : Apart clockGoingBack Upsert.folderNote := by decide +kernel
  have hroom : Unexhausted clockGoingBack Upsert.folderNote := by decide +kernel
  have hlast : (after clockGoingBack Upsert.folderNote).ledger.get? "a/b.md" = some ⟨5, 7⟩ := by
    decide +kernel
  exact ⟨hclock, hapart, hroom, hlast, orderly_of_unexhausted hclock hapart hroom⟩

end Op

end NoteVault
