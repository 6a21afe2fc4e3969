import Mathlib.Data.List.Pairwise
import NoteVault.Proofs.Upsert.Batch
import NoteVault.Proofs.Upsert.Written
import NoteVault.Proofs.Vault.Apart

/-! Upserts of different notes commute. An upsert reads and writes one note and its times only, so that
a batch gives each upsert the result that it would have alone. -/

namespace NoteVault

namespace Vault.SameNote

variable {v w : Vault} {p markdown : Text}

theorem refl (v : Vault) (p : Text) : v.SameNote v p := ⟨rfl, rfl, rfl⟩

theorem statBehind (h : v.SameNote w p) (hp : IsNotePath p) (bytes : Bytes) (now : Int) :
    w.statBehind p bytes now = v.statBehind p bytes now := by
  rw [statBehind_eq (hp.not_isLedger w), statBehind_eq (hp.not_isLedger v), h.times]

theorem foundTime (h : v.SameNote w p) (hp : IsNotePath p) :
    Upsert.foundTime w p = Upsert.foundTime v p := by
  have hkey : Upsert.lookupKey p = p := hp.normal.stable
  rw [Upsert.foundTime, Upsert.foundTime, hkey, Ledger.stat, Ledger.stat, h.times]

theorem admitted (h : v.SameNote w p) (hp : IsNotePath p) {o : Upsert}
    (hadmitted : o.Admitted v p markdown) : o.Admitted w p markdown := by
  obtain ⟨hcheck, hread, hexpected⟩ := hadmitted
  have hkey : Upsert.lookupKey p = p := hp.normal.stable
  rw [hkey] at hread
  constructor
  · exact hcheck
  · rw [hkey, h.readRaw hp.normal, hread]
  · intro expected he
    rw [h.foundTime hp]
    exact hexpected expected he

end Vault.SameNote

namespace Upsert

open Vault

variable {o o' : Upsert} {os os' : List (Int × Upsert)} {v w : Vault} {now now' : Int} {p : Text}

/-- Whether the note of an upsert is named by the path under which it is listed. -/
def IsPlain (o : Upsert) : Prop := ∀ p, target o.file = .ok p → IsNotePath p

/-- Whether two upserts are about different notes. -/
def Differ (o o' : Upsert) : Prop := ∀ p, target o.file = .ok p → target o'.file ≠ .ok p

instance (o : Upsert) : Decidable o.IsPlain :=
  match h : target o.file with
  | .ok p => decidable_of_iff (IsNotePath p)
      ⟨fun hp _ hq => Except.ok.inj (h.symm.trans hq) ▸ hp, fun hplain => hplain p h⟩
  | .error _ => .isTrue fun _ hp => nomatch h.symm.trans hp

instance (o o' : Upsert) : Decidable (o.Differ o') :=
  match h : target o.file with
  | .ok p => decidable_of_iff ((target o'.file).toOption ≠ some p) (by
      constructor
      · intro hne q hq hq'
        obtain rfl := Except.ok.inj (h.symm.trans hq)
        exact hne (congrArg Except.toOption hq')
      · intro hdiffer hsome
        cases htarget : target o'.file with
        | error f => simp [htarget, Except.toOption] at hsome
        | ok q =>
          obtain rfl : q = p := by simpa [htarget, Except.toOption] using hsome
          exact hdiffer q h htarget)
  | .error _ => .isTrue fun _ hp => nomatch h.symm.trans hp

theorem Differ.symm (h : o.Differ o') : o'.Differ o := fun p hp' hp => h p hp hp'

theorem target_of_check (h : o.check = .ok p) : target o.file = .ok p := by
  obtain ⟨path, htarget, hrest⟩ := exists_of_bind_eq_ok h
  split_ifs at hrest with hkeys
  · contradiction
  · cases hfind : o.set.names.find? o.unset.contains with
    | none =>
      rw [hfind] at hrest
      exact htarget.trans hrest
    | some key =>
      rw [hfind] at hrest
      contradiction

theorem plan_congr (hplain : o.IsPlain) (h : ∀ p, target o.file = .ok p → v.SameNote w p) :
    o.plan w = o.plan v := by
  unfold plan
  cases hcheck : o.check with
  | error f => simp only [bind, Except.bind]
  | ok p =>
    have htarget := target_of_check hcheck
    have hnote := (h p htarget).getNote (hplain p htarget).normal
    simp only [bind, Except.bind, hnote]

/-- What an upsert does to every vault that has its note as a given one has it: nothing, or it writes
the same bytes with the same outcome. -/
theorem run_local (hplain : o.IsPlain) (v : Vault) (now : Int) :
    ∃ outcome,
      (∀ w, (∀ p, target o.file = .ok p → v.SameNote w p) → o.run w now = (outcome, w)) ∨
      ∃ p bytes, target o.file = .ok p ∧ (v.file? p).isSome = true ∧
        ∀ w, v.SameNote w p → o.run w now = (outcome, w.written p bytes now) := by
  rcases o.plan_cases v with ⟨f, hf⟩ | ⟨p, markdown, hadmitted⟩
  · refine ⟨.error f, .inl ?_⟩
    intro w hw
    rw [run, plan_congr hplain hw, hf]
  · have htarget := target_of_check hadmitted.check
    have hp := hplain p htarget
    have hkey : recordKey p = p := by
      have hstable := hp.normal.stable
      rw [recordKey, hstable, hstable]
    by_cases hchanged : o.changed (.ofMarkdown markdown) = []
    · refine ⟨.ok ⟨p, foundTime v p, []⟩, .inl ?_⟩
      intro w hw
      have hsame := hw p htarget
      rw [(hsame.admitted hp hadmitted).run_of_kept hchanged, hsame.foundTime hp]
    · refine ⟨.ok ⟨p, (v.statBehind p (o.resultBytes markdown) now).mtime,
        o.changed (.ofMarkdown markdown)⟩, .inr ⟨p, o.resultBytes markdown, htarget, ?_, ?_⟩⟩
      · obtain ⟨-, hfile⟩ := exists_readRaw_iff.mp ⟨_, hadmitted.read⟩
        rwa [hkey] at hfile
      · intro w hsame
        rw [(hsame.admitted hp hadmitted).run_eq_written hchanged, hkey,
          hsame.statBehind hp]

theorem sameNote_run (hplain : o.IsPlain) (hnow : isSigned64 now = true) (hp : IsNotePath p)
    (hne : target o.file ≠ .ok p) (v : Vault) : v.SameNote (o.run v now).2 p := by
  obtain ⟨outcome, hkeep | ⟨q, bytes, htarget, -, hwrite⟩⟩ := run_local hplain v now
  · rw [hkeep v fun q _ => SameNote.refl v q]
    exact SameNote.refl v p
  · have hqp : q ≠ p := by
      rintro rfl
      exact hne htarget
    have hvault : (o.run v now).2 = v.written q bytes now := by rw [hwrite v (SameNote.refl v q)]
    rw [hvault]
    exact sameNote_written hnow (hplain q htarget) hp hqp v bytes

section Two

variable (hplain : o.IsPlain) (hplain' : o'.IsPlain) (hdiffer : o.Differ o')
  (hnow : isSigned64 now = true)

include hplain hplain' hdiffer hnow

/-- An upsert has the same outcome in front of an upsert of another note and behind it. -/
theorem outcome_run (v : Vault) (now' : Int) :
    (o'.run (o.run v now).2 now').1 = (o'.run v now').1 := by
  have hsame : ∀ q, target o'.file = .ok q → v.SameNote (o.run v now).2 q := by
    intro q htarget
    exact sameNote_run hplain hnow (hplain' q htarget) (fun h => hdiffer q h htarget) v
  obtain ⟨outcome, hkeep | ⟨q, bytes, htarget, -, hwrite⟩⟩ := run_local hplain' v now'
  · rw [hkeep _ hsame, hkeep v fun q _ => SameNote.refl v q]
  · rw [hwrite _ (hsame q htarget), hwrite v (SameNote.refl v q)]

/-- Two upserts of different notes leave the same vault in either order. -/
theorem run_comm (hnow' : isSigned64 now' = true) (v : Vault) :
    (o'.run (o.run v now).2 now').2 = (o.run (o'.run v now').2 now).2 := by
  have hsame : ∀ q, target o'.file = .ok q → v.SameNote (o.run v now).2 q := by
    intro q htarget
    exact sameNote_run hplain hnow (hplain' q htarget) (fun h => hdiffer q h htarget) v
  have hsame' : ∀ p, target o.file = .ok p → v.SameNote (o'.run v now').2 p := by
    intro p htarget
    exact sameNote_run hplain' hnow' (hplain p htarget) (hdiffer p htarget) v
  -- only if both of them write is there anything to exchange
  obtain ⟨a, hkeep | ⟨p, bytes, htarget, hfile, hwrite⟩⟩ := run_local hplain v now
  · have hstart := hkeep v fun p _ => SameNote.refl v p
    rw [hkeep _ hsame', hstart]
  · have hstart := hwrite v (SameNote.refl v p)
    obtain ⟨b, hkeep' | ⟨q, bytes', htarget', hfile', hwrite'⟩⟩ := run_local hplain' v now'
    · have hstart' := hkeep' v fun p _ => SameNote.refl v p
      rw [hkeep' _ hsame, hstart']
    · have hstart' := hwrite' v (SameNote.refl v q)
      have hne : p ≠ q := fun h => hdiffer p htarget (h ▸ htarget')
      have hcomm := written_comm hnow hnow' (hplain p htarget) (hplain' q htarget') hne hfile hfile'
        bytes bytes'
      rw [hwrite' _ (hsame q htarget'), hwrite _ (hsame' p htarget), hstart, hstart', hcomm]

end Two

/-- Whether a batch is about different notes that are named by the paths under which they are listed,
run at times of 64 bits. -/
structure Scattered (os : List (Int × Upsert)) : Prop where
  clock : ∀ e ∈ os, isSigned64 e.1 = true
  plain : ∀ e ∈ os, e.2.IsPlain
  differ : os.Pairwise fun d e => d.2.Differ e.2

instance (os : List (Int × Upsert)) : Decidable (Scattered os) :=
  decidable_of_iff ((∀ e ∈ os, isSigned64 e.1 = true) ∧ (∀ e ∈ os, e.2.IsPlain) ∧
      os.Pairwise fun d e => d.2.Differ e.2)
    ⟨fun h => ⟨h.1, h.2.1, h.2.2⟩, fun h => ⟨h.clock, h.plain, h.differ⟩⟩

/-- A batch gives each upsert the result that it has alone. -/
theorem results_runAll (h : Scattered os) (v : Vault) :
    (runAll true os v).1 = os.map fun e => Result.of e.2 (e.2.run v e.1).1 := by
  induction os generalizing v with
  | nil => rfl
  | cons e os ih =>
    obtain ⟨now, o⟩ := e
    obtain ⟨hclock, hplain, hdiffer⟩ := h
    rw [List.forall_mem_cons] at hclock hplain
    rw [List.pairwise_cons] at hdiffer
    have hrest := ih ⟨hclock.2, hplain.2, hdiffer.2⟩ (o.run v now).2
    have halone : os.map (fun e => Result.of e.2 (e.2.run (o.run v now).2 e.1).1) =
        os.map fun e => Result.of e.2 (e.2.run v e.1).1 := by
      apply List.map_congr_left
      intro e he
      rw [outcome_run hplain.1 (hplain.2 e he) (hdiffer.1 e he) hclock.1]
    rw [runAll_true_cons, List.map_cons, hrest, halone]

theorem Scattered.perm (h : Scattered os) (hperm : os.Perm os') : Scattered os' := by
  constructor
  · intro e he
    exact h.clock e (hperm.mem_iff.mpr he)
  · intro e he
    exact h.plain e (hperm.mem_iff.mpr he)
  · exact (hperm.pairwise_iff Differ.symm).mp h.differ

theorem after_perm (h : Scattered os) (hperm : os.Perm os') (v : Vault) : after os v = after os' v := by
  apply hperm.foldl_eq'
  intro d hd e he u
  by_cases heq : d = e
  · rw [heq]
  · have hsymm : Std.Symm fun d e : Int × Upsert => d.2.Differ e.2 := ⟨fun _ _ => Differ.symm⟩
    have hdiffer := h.differ.forall hd he heq
    exact run_comm (h.plain d hd) (h.plain e he) hdiffer (h.clock d hd) (h.clock e he) u

/-- Upserts of different notes commute: in whatever order a batch of them is run, the vault it leaves
and the result of each upsert are the same. -/
theorem runAll_perm (h : Scattered os) (hperm : os.Perm os') (v : Vault) :
    (runAll true os v).2 = (runAll true os' v).2 ∧
      (os.zip (runAll true os v).1).Perm (os'.zip (runAll true os' v).1) := by
  constructor
  · rw [(runAll_goOn os v).1, (runAll_goOn os' v).1]
    exact after_perm h hperm v
  · rw [results_runAll h, results_runAll (h.perm hperm), ← List.map_prod_left_eq_zip,
      ← List.map_prod_left_eq_zip]
    exact hperm.map _

/-- A vault with two notes and without a ledger. -/
def twoNotes : Vault :=
  ⟨"vault", ⟨.ofList [("vault/a.md", Utf8.encode "a"), ("vault/b.md", Utf8.encode "b")], .empty⟩⟩

/-- A batch that sets a key of each of them, and of a note that is not there. -/
def settings : List (Int × Upsert) :=
  [(3, ⟨"a", .ofList [("x", .int 1)], [], none⟩), (2, ⟨"c", .ofList [("x", .int 1)], [], none⟩),
    (1, ⟨"b.md", .ofList [("x", .int 1)], [], some 0⟩)]

theorem runAll_perm_settings :
    Scattered settings ∧ settings.Perm settings.reverse ∧
      (runAll true settings twoNotes).1.map Result.isOk = [true, false, true] ∧
      (runAll true settings twoNotes).2 = (runAll true settings.reverse twoNotes).2 ∧
      (settings.zip (runAll true settings twoNotes).1).Perm
        (settings.reverse.zip (runAll true settings.reverse twoNotes).1) := by
  have h : Scattered settings := by decide +kernel
  have hperm : settings.Perm settings.reverse := (List.reverse_perm settings).symm
  have hok : (runAll true settings twoNotes).1.map Result.isOk = [true, false, true] := by
    decide +kernel
  exact ⟨h, hperm, hok, runAll_perm h hperm twoNotes⟩

end Upsert

end NoteVault
