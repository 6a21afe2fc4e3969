import NoteVault.Proofs.Upsert.Run

/-! The guard of upserts over runs. An upsert that expects a time that was told for a path is refused
exactly if a write of that path was recorded since. -/

namespace NoteVault

namespace Op

variable {p : Text} {m : Int} {v : Vault} {ops : List (Int × Op)}

/-- Whether the clock shows times of 64 bits, so early that no write of a run gets the last one. -/
def Timely (ops : List (Int × Op)) : Prop :=
  ∀ e ∈ ops, isSigned64 e.1 = true ∧ e.1 + ops.length ≤ Stat.lastTime

instance (ops : List (Int × Op)) : Decidable (Timely ops) :=
  inferInstanceAs (Decidable (∀ e ∈ ops, _ ∧ _))

/-- Whether a run leaves the file of the ledger alone. -/
def Apart (ops : List (Int × Op)) (v : Vault) : Prop := ∀ key ∈ keys ops v, ¬v.IsLedger key

instance (ops : List (Int × Op)) (v : Vault) : Decidable (Apart ops v) :=
  inferInstanceAs (Decidable (∀ key ∈ keys ops v, ¬v.IsLedger key))

theorem Timely.head {now : Int} {op : Op} (h : Timely ((now, op) :: ops)) :
    isSigned64 now = true ∧ now + (ops.length + 1) ≤ Stat.lastTime := h _ List.mem_cons_self

theorem Timely.tail {e : Int × Op} (h : Timely (e :: ops)) : Timely ops := by
  intro d hd
  obtain ⟨hsigned, hlast⟩ := h d (List.mem_cons_of_mem e hd)
  rw [List.length_cons] at hlast
  exact ⟨hsigned, by omega⟩

theorem Apart.head {now : Int} {op : Op} (h : Apart ((now, op) :: ops) v) :
    ∀ key ∈ op.key? v now, ¬v.IsLedger key :=
  fun key hkey => h key (List.mem_append_left _ (Option.mem_toList.mpr hkey))

theorem Apart.tail {now : Int} {op : Op} (h : Apart ((now, op) :: ops) v) :
    Apart ops (op.run v now) := by
  intro key hkey hledger
  rw [Vault.isLedger_congr (op.root_run v now)] at hledger
  exact h key (List.mem_append_right _ hkey) hledger

theorem get?_ledger_after (htimely : Timely ops) (hapart : Apart ops v) (hp : p ∉ keys ops v) :
    (after ops v).ledger.get? p = v.ledger.get? p := by
  induction ops generalizing v with
  | nil => rfl
  | cons e ops ih =>
    obtain ⟨now, op⟩ := e
    rw [keys, List.mem_append, not_or] at hp
    have hkey : op.key? v now ≠ some p := fun h => hp.1 (Option.mem_toList.mpr h)
    have hstep := get?_ledger_run htimely.head.1 hapart.head p
    rw [if_neg hkey] at hstep
    exact (ih htimely.tail hapart.tail hp.2).trans hstep

theorem later_after (htimely : Timely ops) (hapart : Apart ops v) {s : Stat}
    (hs : v.ledger.get? p = some s) (hlater : m < s.mtime)
    (hlast : s.mtime + ops.length ≤ Stat.lastTime) :
    ∃ s, (after ops v).ledger.get? p = some s ∧ m < s.mtime := by
  induction ops generalizing v s with
  | nil => exact ⟨s, hs, hlater⟩
  | cons e ops ih =>
    obtain ⟨now, op⟩ := e
    obtain ⟨hsigned, hnow⟩ := htimely.head
    have hstep := get?_ledger_run hsigned hapart.head p
    rw [List.length_cons] at hlast
    split_ifs at hstep with hkey
    · rw [hs] at hstep
      have hmtime := Stat.mtime_touch_eq (s := s) (by omega) now
      exact ih htimely.tail hapart.tail hstep (by omega) (by omega)
    · exact ih htimely.tail hapart.tail (hstep.trans hs) hlater (by omega)

/-- A recorded write makes the time of last change later than the one found before the run. -/
theorem later_of_mem_keys (htimely : Timely ops) (hapart : Apart ops v)
    (hm : (v.ledger.stat p).mtime = m) (hlast : m + ops.length ≤ Stat.lastTime)
    (hstart : (v.ledger.get? p).isSome = true ∨ ∀ e ∈ ops, 0 < e.1) (hp : p ∈ keys ops v) :
    ∃ s, (after ops v).ledger.get? p = some s ∧ m < s.mtime := by
  -- the first step that writes `p` makes the time later, and it stays so; the steps before it leave
  -- the times of `p` as they were found
  induction ops generalizing v with
  | nil => exact absurd hp List.not_mem_nil
  | cons e ops ih =>
    obtain ⟨now, op⟩ := e
    obtain ⟨hsigned, hnow⟩ := htimely.head
    have hstep := get?_ledger_run hsigned hapart.head p
    rw [List.length_cons] at hlast
    change ∃ s, (after ops (op.run v now)).ledger.get? p = some s ∧ m < s.mtime
    split_ifs at hstep with hkey
    · cases hget : v.ledger.get? p with
      | none =>
        rw [hget] at hstep hstart
        have hpos : 0 < now := (hstart.resolve_left (by simp)) _ List.mem_cons_self
        rw [Ledger.stat, hget] at hm
        obtain rfl : (0 : Int) = m := hm
        have hlast' : now + ops.length ≤ Stat.lastTime := by omega
        exact later_after htimely.tail hapart.tail hstep hpos hlast'
      | some s =>
        rw [hget] at hstep
        rw [Ledger.stat, hget] at hm
        obtain rfl : s.mtime = m := hm
        have hmtime := Stat.mtime_touch_eq (s := s) (by omega) now
        exact later_after htimely.tail hapart.tail hstep (by omega) (by omega)
    · have hmem : p ∈ keys ops (op.run v now) := by
        rcases List.mem_append.mp hp with h | h
        · exact absurd (Option.mem_toList.mp h) hkey
        · exact h
      refine ih htimely.tail hapart.tail ?_ (by omega) ?_ hmem
      · rw [Ledger.stat, hstep]
        exact hm
      · rw [hstep]
        exact hstart.imp_right fun h e he => h e (List.mem_cons_of_mem _ he)

end Op

namespace Upsert

variable {o : Upsert} {v w : Vault} {p : Text} {m : Int} {ops : List (Int × Op)}

/-- The times of last change that are told for a path: by reading the note, or by an upsert of that
path that has just been run. -/
inductive Told (p : Text) : Vault → Int → Prop
  | read {v : Vault} {note : Note} (found : v.getNote p = .ok note) : Told p v note.mtime
  | upsert {o : Upsert} {v w : Vault} {now : Int} {d : Done} (check : o.check = .ok p)
      (signed : isSigned64 now = true) (run : o.run v now = (.ok d, w)) : Told p w d.mtime

theorem Told.foundTime (hp : recordKey p = lookupKey p) (h : Told p v m) :
    foundTime v p = m ∧ ∃ markdown, v.readRaw (lookupKey p) = .ok markdown := by
  cases h with
  | read hnote =>
    obtain ⟨markdown, hread, rfl⟩ := Vault.getNote_eq_ok_iff.mp hnote
    exact ⟨rfl, markdown, hread⟩
  | upsert hcheck hsigned hrun =>
    cases effect_of_run hrun with
    | @kept path markdown hadmitted =>
      obtain rfl : p = path := Except.ok.inj (hcheck.symm.trans hadmitted.check)
      exact ⟨rfl, _, hadmitted.read⟩
    | @written path markdown _ hadmitted _ hwrote =>
      obtain rfl : p = path := Except.ok.inj (hcheck.symm.trans hadmitted.check)
      have hledger := hwrote.ledger hsigned
      refine ⟨?_, exists_readRaw_iff.mpr ?_⟩
      · rw [Upsert.foundTime, Ledger.stat, hledger, Vault.recorded, hp, Index.get?_insert, if_pos rfl]
        rfl
      · obtain ⟨hne, hfile⟩ := exists_readRaw_iff.mp ⟨_, hadmitted.read⟩
        exact ⟨hne, hwrote.isSome_file? hfile⟩

/-- Once a time was told for a path, an upsert that expects it is refused, and changes nothing,
exactly if a write was recorded under that path since. A write that is recorded under another path to
the same file is not noticed. -/
theorem refused_iff_mem_keys (hp : recordKey p = lookupKey p) (htold : Told p v m)
    (htimely : Op.Timely ops) (hlast : m + ops.length ≤ Stat.lastTime)
    (hstart : (v.ledger.get? (lookupKey p)).isSome = true ∨ ∀ e ∈ ops, 0 < e.1)
    (hapart : Op.Apart ops v) (hcheck : o.check = .ok p) (hexpected : o.expected = some m)
    (now : Int) :
    (∃ actual, o.run (Op.after ops v) now = (.error (.conflict p m actual), Op.after ops v)) ↔
      lookupKey p ∈ Op.keys ops v := by
  obtain ⟨hfound, hread⟩ := htold.foundTime hp
  obtain ⟨hne, hfile⟩ := exists_readRaw_iff.mp hread
  obtain ⟨markdown, hread⟩ :=
    exists_readRaw_iff.mpr ⟨hne, Op.isSome_file?_after ops hfile⟩
  constructor
  · rintro ⟨actual, hrun⟩
    by_contra hkeys
    have hsame := Op.get?_ledger_after htimely hapart hkeys
    have hadmitted : o.Admitted (Op.after ops v) p markdown := by
      refine ⟨hcheck, hread, fun expected h => ?_⟩
      rw [Upsert.foundTime, Ledger.stat, hsame]
      rw [hexpected] at h
      exact (Option.some.inj h).symm.trans hfound.symm
    obtain ⟨d, w, hok⟩ := hadmitted.run_eq_ok now
    rw [hok] at hrun
    exact (nomatch (Prod.mk.inj hrun).1)
  · intro hkeys
    obtain ⟨s, hs, hlater⟩ := Op.later_of_mem_keys htimely hapart hfound hlast hstart hkeys
    have hnew : Upsert.foundTime (Op.after ops v) p = s.mtime := by
      rw [Upsert.foundTime, Ledger.stat, hs]
      rfl
    exact ⟨_, run_of_stale hcheck hread hexpected (by rw [hnew]; omega) now⟩

/-- A vault with one note in a folder. -/
def folderNote : Vault := ⟨"vault", ⟨.ofList [("vault/a/b.md", Utf8.encode "body")], .empty⟩⟩

/-- A write of that note, through one of the paths that lead to it. -/
def writing (path : Text) : List (Int × Op) := [(1, .write path "new")]

/-- Sets a key of a note that should not have been written yet. -/
def expectingZero (path : Text) (n : Int) : Upsert := ⟨path, .ofList [("x", .int n)], [], some 0⟩

theorem told_folderNote : Told "a/b.md" folderNote 0 := by
  have hmtime : (folderNote.getNote "a/b.md").toOption.bind (fun n => some n.mtime) = some 0 := by
    decide +kernel
  obtain ⟨note, hnote, hzero⟩ := exists_of_toOption_bind hmtime
  exact Option.some.inj hzero ▸ .read hnote

theorem refused_iff_mem_keys_writing :
    recordKey "a/b.md" = lookupKey "a/b.md" ∧ Told "a/b.md" folderNote 0 ∧
      Op.Timely (writing "a/b.md") ∧ 0 + ((writing "a/b.md").length : Int) ≤ Stat.lastTime ∧
      (∀ e ∈ writing "a/b.md", 0 < e.1) ∧ Op.Apart (writing "a/b.md") folderNote ∧
      (expectingZero "a/b.md" 1).check = .ok "a/b.md" ∧ (expectingZero "a/b.md" 1).expected = some 0 ∧
      ((∃ actual, (expectingZero "a/b.md" 1).run (Op.after (writing "a/b.md") folderNote) 2 =
          (.error (.conflict "a/b.md" 0 actual), Op.after (writing "a/b.md") folderNote)) ↔
        lookupKey "a/b.md" ∈ Op.keys (writing "a/b.md") folderNote) := by
  have hp : recordKey "a/b.md" = lookupKey "a/b.md" := by decide
  have htimely : Op.Timely (writing "a/b.md") := by decide
  have hlast : 0 + ((writing "a/b.md").length : Int) ≤ Stat.lastTime := by decide
  have hstart : ∀ e ∈ writing "a/b.md", 0 < e.1 := by decide
  have hapart : Op.Apart (writing "a/b.md") folderNote := by decide +kernel
  have hcheck : (expectingZero "a/b.md" 1).check = .ok "a/b.md" := by decide +kernel
  exact ⟨hp, told_folderNote, htimely, hlast, hstart, hapart, hcheck, rfl,
    refused_iff_mem_keys hp told_folderNote htimely hlast (.inr hstart) hapart hcheck rfl 2⟩

/-- A write through a path with an empty step reaches the same file and is not noticed. -/
theorem not_refused_respelled :
    Told "a/b.md" folderNote 0 ∧ Op.keys (writing "a//b.md") folderNote = ["a//b.md"] ∧
      folderNote.address "a//b.md" = folderNote.address "a/b.md" ∧
      (expectingZero "a/b.md" 1).check = .ok "a/b.md" ∧ (expectingZero "a/b.md" 1).expected = some 0 ∧
      ((expectingZero "a/b.md" 1).run (Op.after (writing "a//b.md") folderNote) 2).1 =
        .ok ⟨"a/b.md", 2, ["x".toList]⟩ := by
  refine ⟨told_folderNote, ?_, ?_, ?_, rfl, ?_⟩
  all_goals decide +kernel

end Upsert

end NoteVault
