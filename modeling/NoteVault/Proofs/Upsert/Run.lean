import NoteVault.Proofs.Upsert.Phase

/-! Runs of operations that write notes, and the paths under which they record their writes. -/

namespace NoteVault

/-- An operation that may write a note. -/
inductive Op where
  | write (path markdown : Text)
  | change (path : Text) (f : Frontmatter → Frontmatter)
  | upsert (o : Upsert)

namespace Op

/-- The vault after an operation. -/
def run (op : Op) (v : Vault) (now : Int) : Vault :=
  match op with
  | .write path markdown => (v.writeNote path markdown now).2
  | .change path f => (v.writeFrontmatter path (fun m => ((), f m)) now).2
  | .upsert o => (o.run v now).2

/-- The path under which an operation records the note that it writes, if it writes one. -/
def key? (op : Op) (v : Vault) (now : Int) : Option Text :=
  match op with
  | .write path markdown =>
    if (v.writeNote path markdown now).1.isOk then some (Path.ofNote path) else none
  | .change path f =>
    if (v.writeFrontmatter path (fun m => ((), f m)) now).1.isOk
      then some (Path.ofNote (Path.ofNote path)) else none
  | .upsert o =>
    match (o.run v now).1 with
    | .ok d => if d.changed.isEmpty then none else some (Upsert.recordKey d.path)
    | .error _ => none

/-- An operation writes no file, or it writes one and records that. -/
theorem run_cases (op : Op) (v : Vault) (now : Int) :
    (op.key? v now = none ∧ v.SameFiles (op.run v now)) ∨
      ∃ key bytes, op.key? v now = some key ∧ v.Wrote key bytes now (op.run v now) := by
  cases op with
  | write path markdown =>
    unfold key? run
    rcases v.writeNote_cases path markdown now with ⟨f, w, hw, hsame, -⟩ | ⟨w, hw, -, hwrote⟩
    · dsimp only
      rw [hw]
      exact .inl ⟨rfl, hsame⟩
    · dsimp only
      rw [hw]
      exact .inr ⟨_, _, rfl, hwrote⟩
  | change path f =>
    unfold key? run
    rcases v.writeFrontmatter_cases path (fun m => ((), f m)) now with
      ⟨fault, hw, -⟩ | ⟨markdown, text, w, -, -, hw, hwrote⟩
    · dsimp only
      rw [hw]
      exact .inl ⟨rfl, .refl v⟩
    · dsimp only
      rw [hw]
      exact .inr ⟨_, _, rfl, hwrote⟩
  | upsert o =>
    have heffect := o.effect_run v now
    unfold key? run
    dsimp only
    revert heffect
    generalize (o.run v now).1 = outcome
    generalize (o.run v now).2 = w
    intro heffect
    cases heffect with
    | refused f => exact .inl ⟨rfl, .refl v⟩
    | kept => exact .inl ⟨rfl, .refl v⟩
    | written _ hchanged hwrote =>
      exact .inr ⟨_, _, if_neg (mt List.isEmpty_iff.mp hchanged), hwrote⟩

/-- The vault after some operations, each at its time. -/
def after : List (Int × Op) → Vault → Vault
  | [], v => v
  | (now, op) :: ops, v => after ops (op.run v now)

/-- The paths under which some operations record what they write. -/
def keys : List (Int × Op) → Vault → List Text
  | [], _ => []
  | (now, op) :: ops, v => (op.key? v now).toList ++ keys ops (op.run v now)

theorem root_run (op : Op) (v : Vault) (now : Int) : (op.run v now).root = v.root := by
  rcases op.run_cases v now with ⟨-, hsame⟩ | ⟨key, bytes, -, hwrote⟩
  · exact hsame.root
  · exact hwrote.root

theorem isSome_file?_run {q : Text} (op : Op) {v : Vault} (h : (v.file? q).isSome = true)
    (now : Int) : ((op.run v now).file? q).isSome = true := by
  rcases op.run_cases v now with ⟨-, hsame⟩ | ⟨key, bytes, -, hwrote⟩
  · rw [hsame.file]
    exact h
  · exact hwrote.isSome_file? h

theorem isSome_file?_after {q : Text} (ops : List (Int × Op)) {v : Vault}
    (h : (v.file? q).isSome = true) : ((after ops v).file? q).isSome = true := by
  induction ops generalizing v with
  | nil => exact h
  | cons e ops ih => exact ih (isSome_file?_run e.2 h e.1)

/-- What an operation that leaves the file of the ledger alone does to the times of a path. -/
theorem get?_ledger_run {op : Op} {v : Vault} {now : Int} (hnow : isSigned64 now = true)
    (hkey : ∀ key ∈ op.key? v now, ¬v.IsLedger key) (p : Text) :
    (op.run v now).ledger.get? p = if op.key? v now = some p
      then some (Stat.touch (v.ledger.get? p) now) else v.ledger.get? p := by
  rcases op.run_cases v now with ⟨hnone, hsame⟩ | ⟨key, bytes, hsome, hwrote⟩
  · rw [hsame.ledger, hnone]
    rfl
  · rw [hwrote.get?_ledger hnow (hkey key hsome), hsome]
    by_cases hp : p = key
    · rw [if_pos hp, if_pos (congrArg some hp.symm), hp]
    · rw [if_neg hp, if_neg (fun h => hp (Option.some.inj h).symm)]

end Op

end NoteVault
