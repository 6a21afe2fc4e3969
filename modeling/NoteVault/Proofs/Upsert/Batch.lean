import NoteVault.Proofs.Upsert.Phase
import NoteVault.Upsert.Batch

/-! Batches of upserts. An upsert that fails leaves the vault as it is, so that a batch is the run of
those of its upserts that succeed. -/

namespace NoteVault.Upsert

variable {o : Upsert} {os : List (Int × Upsert)} {v w : Vault} {now : Int} {f : Fault}

theorem eq_of_run_error (h : o.run v now = (.error f, w)) : w = v := by
  cases effect_of_run h with
  | refused => rfl

theorem isOk_of (o : Upsert) (outcome : Except Fault Done) :
    (Result.of o outcome).isOk = outcome.isOk := rfl

theorem isOk_iff {r : Result} : r.isOk = true ↔ ∀ f, r.outcome ≠ .error f := by
  obtain ⟨file, outcome⟩ := r
  cases outcome with
  | ok d => exact iff_of_true rfl fun f h => (nomatch h)
  | error f => exact iff_of_false (fun h => (nomatch h)) fun h => h f rfl

/-- The vault after some upserts, each run on the vault that the earlier ones left. -/
def after (os : List (Int × Upsert)) (v : Vault) : Vault :=
  os.foldl (fun v e => (e.2.run v e.1).2) v

/-- The upserts of a batch that were run and succeeded. -/
def succeeded (goOn : Bool) (os : List (Int × Upsert)) (v : Vault) : List (Int × Upsert) :=
  ((os.zip (runAll goOn os v).1).filter fun e => e.2.isOk).map Prod.fst

theorem runAll_nil (goOn : Bool) (v : Vault) : runAll goOn [] v = ([], v) := rfl

theorem runAll_cons_of_isOk (h : (o.run v now).1.isOk = true) (goOn : Bool)
    (os : List (Int × Upsert)) :
    runAll goOn ((now, o) :: os) v =
      (.of o (o.run v now).1 :: (runAll goOn os (o.run v now).2).1,
        (runAll goOn os (o.run v now).2).2) := by
  simp [runAll, h]

theorem run_of_not_isOk (h : (o.run v now).1.isOk = false) :
    ∃ f, o.run v now = (.error f, v) := by
  cases hrun : o.run v now with
  | mk outcome w =>
    cases outcome with
    | ok d => simp [hrun, Except.isOk, Except.toBool] at h
    | error f => exact ⟨f, by rw [eq_of_run_error hrun]⟩

theorem runAll_cons_of_error (h : o.run v now = (.error f, v)) (goOn : Bool)
    (os : List (Int × Upsert)) :
    runAll goOn ((now, o) :: os) v =
      if goOn = true then (.of o (.error f) :: (runAll true os v).1, (runAll true os v).2)
        else ([.of o (.error f)], v) := by
  cases goOn <;> simp [runAll, h, Except.isOk, Except.toBool]

theorem runAll_true_cons (now : Int) (o : Upsert) (os : List (Int × Upsert)) (v : Vault) :
    runAll true ((now, o) :: os) v =
      (.of o (o.run v now).1 :: (runAll true os (o.run v now).2).1,
        (runAll true os (o.run v now).2).2) := by
  simp [runAll]

theorem runAll_goOn (os : List (Int × Upsert)) (v : Vault) :
    (runAll true os v).2 = after os v ∧
      ∀ i, (runAll true os v).1[i]? = os[i]?.map fun (e : Int × Upsert) =>
        Result.of e.2 (e.2.run (after (os.take i) v) e.1).1 := by
  induction os generalizing v with
  | nil => simp [runAll_nil, after]
  | cons e os ih =>
    obtain ⟨now, o⟩ := e
    obtain ⟨hvault, hresults⟩ := ih (o.run v now).2
    rw [runAll_true_cons]
    refine ⟨hvault, ?_⟩
    intro i
    cases i with
    | zero => simp [after]
    | succ i =>
      have hi := hresults i
      simpa [after] using hi

theorem runAll_stop (os : List (Int × Upsert)) (v : Vault) :
    runAll false os v = runAll true
      (os.take ((runAll true os v).1.findIdx (fun r => !r.isOk) + 1)) v := by
  induction os generalizing v with
  | nil => simp [runAll_nil]
  | cons e os ih =>
    obtain ⟨now, o⟩ := e
    cases h : (o.run v now).1.isOk with
    | true =>
      have hrest := ih (o.run v now).2
      simp only [runAll_cons_of_isOk h, List.findIdx_cons, isOk_of, h, Bool.not_true, cond_false,
        List.take_succ_cons]
      rw [← hrest]
    | false =>
      obtain ⟨f, hf⟩ := run_of_not_isOk h
      have hfailed : (Result.of o (.error f)).isOk = false := rfl
      simp [runAll_cons_of_error hf, List.findIdx_cons, hfailed, runAll_nil]

/-- The upserts of a batch that succeed do the same without the others, in either mode. -/
theorem runAll_succeeded (goOn goOn' : Bool) (os : List (Int × Upsert)) (v : Vault) :
    runAll goOn' (succeeded goOn os v) v =
      ((runAll goOn os v).1.filter Result.isOk, (runAll goOn os v).2) := by
  induction os generalizing v with
  | nil => simp [succeeded, runAll_nil]
  | cons e os ih =>
    obtain ⟨now, o⟩ := e
    cases h : (o.run v now).1.isOk with
    | true =>
      have hrest := ih (o.run v now).2
      have hkept : succeeded goOn ((now, o) :: os) v =
          (now, o) :: succeeded goOn os (o.run v now).2 := by
        simp [succeeded, runAll_cons_of_isOk h, isOk_of, h]
      rw [hkept, runAll_cons_of_isOk h, runAll_cons_of_isOk h, hrest]
      simp [isOk_of, h]
    | false =>
      obtain ⟨f, hf⟩ := run_of_not_isOk h
      have hfailed : (Result.of o (.error f)).isOk = false := rfl
      cases goOn with
      | false => simp [succeeded, runAll_cons_of_error hf, hfailed, runAll_nil]
      | true =>
        have hrest := ih v
        have hdropped : succeeded true ((now, o) :: os) v = succeeded true os v := by
          simp [succeeded, runAll_cons_of_error hf, hfailed]
        rw [hdropped, hrest]
        simp [runAll_cons_of_error hf, hfailed]

/-- An upsert is all or nothing, and a batch runs its upserts from left to right: all of them, or
those up to the first one that fails. What a batch leaves is left by those of its upserts that
succeed. -/
theorem runAll_folds (os : List (Int × Upsert)) (v : Vault) :
    (∀ (o : Upsert) (u w : Vault) (now : Int) (f : Fault), o.run u now = (.error f, w) → w = u) ∧
    ((runAll true os v).2 = after os v ∧
      ∀ i, (runAll true os v).1[i]? = os[i]?.map fun (e : Int × Upsert) =>
        Result.of e.2 (e.2.run (after (os.take i) v) e.1).1) ∧
    runAll false os v = runAll true
      (os.take ((runAll true os v).1.findIdx (fun r => !r.isOk) + 1)) v ∧
    ∀ goOn, (allOk (runAll goOn os v).1 = true ↔
        ∀ r ∈ (runAll goOn os v).1, ∀ f, r.outcome ≠ .error f) ∧
      (∀ goOn', runAll goOn' (succeeded goOn os v) v =
        ((runAll goOn os v).1.filter Result.isOk, (runAll goOn os v).2)) ∧
      after (succeeded goOn os v) v = (runAll goOn os v).2 := by
  refine ⟨fun o u w now f => eq_of_run_error, runAll_goOn os v, runAll_stop os v, ?_⟩
  intro goOn
  refine ⟨?_, fun goOn' => runAll_succeeded goOn goOn' os v, ?_⟩
  · simp only [allOk, List.all_eq_true, isOk_iff]
  · rw [← (runAll_goOn (succeeded goOn os v) v).1, runAll_succeeded]

end NoteVault.Upsert
