import NoteVault.Proofs.Upsert.Guard

/-! Two upserts of one note whose phases interleave. The guard is checked in the first phase only, so
that it keeps them apart only if one of them is done before the other one begins. -/

namespace NoteVault.Upsert

/-- How far an upsert is. -/
inductive Progress where
  | waiting
  | planned (p : Plan)
  | finished (outcome : Except Fault Done)
  deriving DecidableEq

namespace Progress

def succeeded : Progress → Bool
  | .finished (.ok _) => true
  | _ => false

/-- Whether an upsert found another time of last change than it expected. -/
def refused : Progress → Bool
  | .finished (.error (.conflict _ _ _)) => true
  | _ => false

end Progress

/-- The next phase of an upsert, at a time. -/
def turn (o : Upsert) (now : Int) : Progress → Vault → Progress × Vault
  | .waiting, v =>
    match o.plan v with
    | .error f => (.finished (.error f), v)
    | .ok p => (.planned p, v)
  | .planned p, v =>
    let (outcome, w) := o.commit p v now
    (.finished outcome, w)
  | .finished outcome, v => (.finished outcome, v)

/-- Which one of two upserts. -/
inductive Side where
  | first
  | second
  deriving DecidableEq, Repr

def Side.other : Side → Side
  | .first => .second
  | .second => .first

/-- Two upserts of one vault, each as far as it is. -/
structure Pair where
  first : Progress := .waiting
  second : Progress := .waiting
  vault : Vault

namespace Pair

/-- One phase of one of two upserts, each of which has its time of writing. -/
def step (a b : Int × Upsert) (s : Pair) : Side → Pair
  | .first =>
    let (x, v) := a.2.turn a.1 s.first s.vault
    { s with first := x, vault := v }
  | .second =>
    let (x, v) := b.2.turn b.1 s.second s.vault
    { s with second := x, vault := v }

def run (a b : Int × Upsert) (schedule : List Side) (v : Vault) : Pair :=
  schedule.foldl (step a b) { vault := v }

/-- Whether one upsert succeeds and the other one is refused. -/
def Excluded (s : Pair) : Prop :=
  s.first.succeeded = true ∧ s.second.refused = true ∨
    s.first.refused = true ∧ s.second.succeeded = true

instance (s : Pair) : Decidable s.Excluded := inferInstanceAs (Decidable (_ ∨ _))

/-- Whether both upserts succeed. -/
def BothSucceed (s : Pair) : Prop := s.first.succeeded = true ∧ s.second.succeeded = true

instance (s : Pair) : Decidable s.BothSucceed := inferInstanceAs (Decidable (_ ∧ _))

theorem BothSucceed.not_excluded {s : Pair} (h : s.BothSucceed) : ¬s.Excluded := by
  have hexclusive (x : Progress) (hx : x.succeeded = true) : x.refused = false := by
    cases x with
    | finished outcome => cases outcome <;> first | rfl | contradiction
    | _ => contradiction
  rintro (⟨-, hrefused⟩ | ⟨hrefused, -⟩)
  · rw [hexclusive _ h.2] at hrefused
    contradiction
  · rw [hexclusive _ h.1] at hrefused
    contradiction

/-- The same two upserts in the other order. -/
def swap (s : Pair) : Pair := ⟨s.second, s.first, s.vault⟩

theorem excluded_swap {s : Pair} : s.swap.Excluded ↔ s.Excluded := by
  rw [Excluded, Excluded, or_comm, and_comm, @and_comm (s.swap.first.succeeded = true)]
  rfl

theorem bothSucceed_swap {s : Pair} : s.swap.BothSucceed ↔ s.BothSucceed := and_comm

theorem run_swap (a b : Int × Upsert) (schedule : List Side) (v : Vault) :
    (run a b schedule v).swap = run b a (schedule.map Side.other) v := by
  have hstep (s : Pair) (side : Side) : (step a b s side).swap = step b a s.swap side.other := by
    cases side <;> rfl
  have hfold (s : Pair) :
      (schedule.foldl (step a b) s).swap = (schedule.map Side.other).foldl (step b a) s.swap := by
    induction schedule generalizing s with
    | nil => rfl
    | cons side schedule ih => rw [List.foldl_cons, ih, hstep]; rfl
  exact hfold _

end Pair

variable {o o' : Upsert} {v w : Vault} {p q markdown markdown' : Text} {now now' : Int}

/-- Whether an upsert of a path expects the time of last change that it finds, and would change a
key. -/
structure Contends (o : Upsert) (v : Vault) (path markdown : Text) : Prop where
  check : o.check = .ok path
  read : v.readRaw (lookupKey path) = .ok markdown
  expects : o.expected = some (foundTime v path)
  changes : o.changed (.ofMarkdown markdown) ≠ []

theorem Contends.admitted (h : o.Contends v p markdown) : o.Admitted v p markdown := by
  refine ⟨h.check, h.read, fun expected hexpected => ?_⟩
  rw [h.expects] at hexpected
  exact (Option.some.inj hexpected).symm

/-- Whether a write of a note through one path is noticed by an upsert through another one. -/
def Noticed (v : Vault) (now : Int) (p q : Text) : Prop :=
  recordKey p = lookupKey q ∧ ((v.ledger.get? (lookupKey q)).isSome = true ∨ now ≠ 0)

theorem foundTime_ne_iff_noticed {bytes : Bytes} (h : v.Wrote (recordKey p) bytes now w)
    (hnow : isSigned64 now = true) (hledger : ¬v.IsLedger (recordKey p)) :
    foundTime w q ≠ foundTime v q ↔ Noticed v now p q := by
  rw [foundTime, foundTime, Ledger.stat, Ledger.stat, h.get?_ledger hnow hledger, Noticed]
  by_cases hkey : lookupKey q = recordKey p
  · rw [if_pos hkey, hkey, and_iff_right rfl]
    cases hget : v.ledger.get? (recordKey p) with
    | none => simp [Stat.touch]
    | some s =>
      refine iff_of_true ?_ (.inl rfl)
      exact Stat.mtime_touch_ne s now
  · rw [if_neg hkey]
    exact iff_of_false (fun h => h rfl) fun h => hkey h.1.symm

theorem turn_waiting (h : o.Admitted v p markdown) (now : Int) :
    o.turn now .waiting v = (.planned (o.planOf v p markdown), v) := by
  rw [turn, h.plan]

theorem turn_waiting_of_stale {expected : Int} (hcheck : o.check = .ok p)
    (hread : v.readRaw (lookupKey p) = .ok markdown) (hexpected : o.expected = some expected)
    (hstale : expected ≠ foundTime v p) (now : Int) :
    o.turn now .waiting v = (.finished (.error (.conflict p expected (foundTime v p))), v) := by
  rw [turn, plan_of_stale hcheck hread hexpected hstale]

theorem turn_planned_of_changed {x : Plan} (hchanged : x.changed ≠ [])
    (hread : v.readRaw (lookupKey x.path) = .ok markdown) (o : Upsert) (now : Int) :
    ∃ d w, o.turn now (.planned x) v = (.finished (.ok d), w) ∧
      v.Wrote (recordKey x.path) (o.resultBytes markdown) now w := by
  obtain ⟨w, hw, hwrote⟩ := commit_of_changed hchanged hread o now
  rw [turn, hw]
  exact ⟨_, w, rfl, hwrote⟩

theorem turn_planned {x : Plan} (hread : v.readRaw (lookupKey x.path) = .ok markdown) (o : Upsert)
    (now : Int) : ∃ d w, o.turn now (.planned x) v = (.finished (.ok d), w) := by
  by_cases hchanged : x.changed = []
  · rw [turn, commit_of_kept hchanged]
    exact ⟨_, v, rfl⟩
  · obtain ⟨d, w, hw, -⟩ := turn_planned_of_changed hchanged hread o now
    exact ⟨d, w, hw⟩

theorem exists_readRaw_of_wrote {key : Text} {bytes : Bytes} (h : v.Wrote key bytes now w)
    (hread : v.readRaw (lookupKey q) = .ok markdown) :
    ∃ markdown, w.readRaw (lookupKey q) = .ok markdown := by
  obtain ⟨hne, hfile⟩ := exists_readRaw_iff.mp ⟨_, hread⟩
  exact exists_readRaw_iff.mpr ⟨hne, h.isSome_file? hfile⟩

/-- An upsert that is done before another one begins. -/
theorem turns_of_serial (h : o.Contends v p markdown) (h' : o'.Contends v q markdown')
    (hnow : isSigned64 now = true) (hledger : ¬v.IsLedger (recordKey p)) (now' : Int) :
    ∃ d w, o.turn now (.planned (o.planOf v p markdown)) v = (.finished (.ok d), w) ∧
      (Noticed v now p q → ∃ f, (Progress.finished (.error f)).refused = true ∧
        o'.turn now' .waiting w = (.finished (.error f), w)) ∧
      (¬Noticed v now p q → ∃ x d' w', o'.turn now' .waiting w = (.planned x, w) ∧
        o'.turn now' (.planned x) w = (.finished (.ok d'), w')) := by
  obtain ⟨d, w, hw, hwrote⟩ :=
    turn_planned_of_changed (x := o.planOf v p markdown) h.changes h.read o now
  obtain ⟨found, hfound⟩ := exists_readRaw_of_wrote hwrote h'.read
  have hiff := foundTime_ne_iff_noticed (q := q) hwrote hnow hledger
  refine ⟨d, w, hw, fun hnoticed => ?_, fun hunnoticed => ?_⟩
  · have hstale := (hiff.mpr hnoticed).symm
    exact ⟨_, rfl, turn_waiting_of_stale h'.check hfound h'.expects hstale now'⟩
  · have hsame : foundTime w q = foundTime v q := not_not.mp (mt hiff.mp hunnoticed)
    have hadmitted : o'.Admitted w q found := by
      refine ⟨h'.check, hfound, fun expected hexpected => ?_⟩
      rw [hsame]
      exact h'.admitted.expected expected hexpected
    obtain ⟨d', w', hw'⟩ := turn_planned (x := o'.planOf w q found) hfound o' now'
    exact ⟨_, d', w', turn_waiting hadmitted now', hw'⟩

/-- Two upserts that are both planned before one of them writes. -/
theorem turns_of_overlap (h : o.Contends v p markdown) (h' : o'.Contends v q markdown')
    (now now' : Int) :
    ∃ d w d' w', o.turn now (.planned (o.planOf v p markdown)) v = (.finished (.ok d), w) ∧
      o'.turn now' (.planned (o'.planOf v q markdown')) w = (.finished (.ok d'), w') := by
  obtain ⟨d, w, hw, hwrote⟩ :=
    turn_planned_of_changed (x := o.planOf v p markdown) h.changes h.read o now
  obtain ⟨found, hfound⟩ := exists_readRaw_of_wrote hwrote h'.read
  obtain ⟨d', w', hw'⟩ := turn_planned (x := o'.planOf v q markdown') hfound o' now'
  exact ⟨d, w, d', w', hw, hw'⟩

section Schedule

open Side

/-- A schedule in which both upserts have their two phases. -/
def IsSchedule (schedule : List Side) : Prop :=
  schedule.count first = 2 ∧ schedule.count second = 2

instance (schedule : List Side) : Decidable (IsSchedule schedule) :=
  inferInstanceAs (Decidable (_ ∧ _))

/-- The schedules in which both upserts are planned before one of them writes. -/
def overlaps : List (List Side) :=
  [[first, second, first, second], [first, second, second, first],
    [second, first, first, second], [second, first, second, first]]

theorem length_eq_count (schedule : List Side) :
    schedule.length = schedule.count first + schedule.count second := by
  induction schedule with
  | nil => rfl
  | cons side schedule ih => cases side <;> simp [ih] <;> omega

theorem IsSchedule.cases {schedule : List Side} (h : IsSchedule schedule) :
    schedule = [first, first, second, second] ∨ schedule = [second, second, first, first] ∨
      schedule ∈ overlaps := by
  obtain ⟨hfirst, hsecond⟩ := h
  have hlength := length_eq_count schedule
  rw [hfirst, hsecond] at hlength
  match schedule, hlength with
  | [a, b, c, d], _ =>
    cases a <;> cases b <;> cases c <;> cases d <;> simp_all [overlaps]

theorem excluded_of_serial (h : o.Contends v p markdown) (h' : o'.Contends v q markdown')
    (hledger : ¬v.IsLedger (recordKey p)) (hnow : isSigned64 now = true) (now' : Int) :
    ((Pair.run (now, o) (now', o') [first, first, second, second] v).Excluded ↔ Noticed v now p q) ∧
      ((Pair.run (now, o) (now', o') [first, first, second, second] v).Excluded ∨
        (Pair.run (now, o) (now', o') [first, first, second, second] v).BothSucceed) := by
  have hplan := turn_waiting h.admitted now
  obtain ⟨d, w, hw, hrefused, hadmitted⟩ := turns_of_serial h h' hnow hledger now'
  by_cases hnoticed : Noticed v now p q
  · obtain ⟨f, hf, hturn⟩ := hrefused hnoticed
    have hexcluded : (Pair.run (now, o) (now', o') [first, first, second, second] v).Excluded := by
      simp only [Pair.run, List.foldl_cons, List.foldl_nil, Pair.step, hplan, hw, hturn]
      exact .inl ⟨rfl, hf⟩
    exact ⟨iff_of_true hexcluded hnoticed, .inl hexcluded⟩
  · obtain ⟨x, d', w', hturn, hw'⟩ := hadmitted hnoticed
    have hboth : (Pair.run (now, o) (now', o') [first, first, second, second] v).BothSucceed := by
      simp only [Pair.run, List.foldl_cons, List.foldl_nil, Pair.step, hplan, hw, hturn, hw']
      exact ⟨rfl, rfl⟩
    exact ⟨iff_of_false hboth.not_excluded hnoticed, .inr hboth⟩

theorem bothSucceed_of_overlap (h : o.Contends v p markdown) (h' : o'.Contends v q markdown')
    {schedule : List Side} (hschedule : schedule ∈ overlaps) (now now' : Int) :
    (Pair.run (now, o) (now', o') schedule v).BothSucceed := by
  have hplan := turn_waiting h.admitted now
  have hplan' := turn_waiting h'.admitted now'
  obtain ⟨d₁, w₁, d₂, w₂, hw₁, hw₂⟩ := turns_of_overlap h h' now now'
  obtain ⟨e₁, u₁, e₂, u₂, hu₁, hu₂⟩ := turns_of_overlap h' h now' now
  simp only [overlaps, List.mem_cons, List.not_mem_nil, or_false] at hschedule
  rcases hschedule with rfl | rfl | rfl | rfl
  all_goals
    simp only [Pair.run, List.foldl_cons, List.foldl_nil, Pair.step, hplan, hplan', hw₁, hw₂, hu₁,
      hu₂]
    exact ⟨rfl, rfl⟩

/-- Two upserts that contend for one note exclude each other exactly if one of them is done before the
other one begins and its write is noticed. Else both succeed. -/
theorem excluded_iff_serial_noticed (h : o.Contends v p markdown) (h' : o'.Contends v q markdown')
    (hsame : v.address (recordKey p) = v.address (recordKey q)) (hledger : ¬v.IsLedger (recordKey p))
    (hnow : isSigned64 now = true) (hnow' : isSigned64 now' = true) {schedule : List Side}
    (hschedule : IsSchedule schedule) :
    ((Pair.run (now, o) (now', o') schedule v).Excluded ↔
      schedule = [first, first, second, second] ∧ Noticed v now p q ∨
        schedule = [second, second, first, first] ∧ Noticed v now' q p) ∧
    ((Pair.run (now, o) (now', o') schedule v).Excluded ∨
      (Pair.run (now, o) (now', o') schedule v).BothSucceed) := by
  have hledger' : ¬v.IsLedger (recordKey q) := by
    rw [Vault.IsLedger, ← hsame]
    exact hledger
  rcases hschedule.cases with rfl | rfl | hoverlap
  · obtain ⟨hexcluded, htotal⟩ := excluded_of_serial h h' hledger hnow now'
    refine ⟨hexcluded.trans ?_, htotal⟩
    simp
  · obtain ⟨hexcluded, htotal⟩ := excluded_of_serial h' h hledger' hnow' now
    rw [← Pair.excluded_swap, ← Pair.bothSucceed_swap, Pair.run_swap] at htotal
    rw [← Pair.excluded_swap, Pair.run_swap] at hexcluded
    refine ⟨hexcluded.trans ?_, htotal⟩
    simp
  · have hboth := bothSucceed_of_overlap h h' hoverlap now now'
    refine ⟨iff_of_false hboth.not_excluded ?_, .inr hboth⟩
    rintro (⟨rfl, -⟩ | ⟨rfl, -⟩)
    · exact absurd hoverlap (by decide)
    · exact absurd hoverlap (by decide)

theorem contends_one : (expectingZero "a/b.md" 1).Contends folderNote "a/b.md" "body" :=
  ⟨by decide +kernel, by decide +kernel, by decide +kernel, by decide +kernel⟩

theorem contends_two : (expectingZero "a/b.md" 2).Contends folderNote "a/b.md" "body" :=
  ⟨by decide +kernel, by decide +kernel, by decide +kernel, by decide +kernel⟩

theorem contends_respelled : (expectingZero "a//b.md" 2).Contends folderNote "a//b.md" "body" :=
  ⟨by decide +kernel, by decide +kernel, by decide +kernel, by decide +kernel⟩

/-- Two upserts of one note, of which the second one may take another path to it. -/
def onePair (path : Text) (schedule : List Side) : Pair :=
  Pair.run (1, expectingZero "a/b.md" 1) (2, expectingZero path 2) schedule folderNote

theorem excluded_iff_serial_noticed_onePair :
    (expectingZero "a/b.md" 1).Contends folderNote "a/b.md" "body" ∧
      (expectingZero "a/b.md" 2).Contends folderNote "a/b.md" "body" ∧
      ¬folderNote.IsLedger (recordKey "a/b.md") ∧ IsSchedule [first, first, second, second] ∧
      ((onePair "a/b.md" [first, first, second, second]).Excluded ↔
        [first, first, second, second] = [first, first, second, second] ∧
            Noticed folderNote 1 "a/b.md" "a/b.md" ∨
          [first, first, second, second] = [second, second, first, first] ∧
            Noticed folderNote 2 "a/b.md" "a/b.md") ∧
      ((onePair "a/b.md" [first, first, second, second]).Excluded ∨
        (onePair "a/b.md" [first, first, second, second]).BothSucceed) := by
  have hledger : ¬folderNote.IsLedger (recordKey "a/b.md") := by decide +kernel
  have hschedule : IsSchedule [first, first, second, second] := by decide
  exact ⟨contends_one, contends_two, hledger, hschedule,
    excluded_iff_serial_noticed contends_one contends_two rfl hledger (by decide) (by decide)
      hschedule⟩

/-- Two upserts that are planned before one of them writes both succeed, and the first value is lost.
So do two upserts one after the other, if the second one takes another path to the note. -/
theorem bothSucceed_onePair :
    (expectingZero "a/b.md" 1).Contends folderNote "a/b.md" "body" ∧
      (expectingZero "a/b.md" 2).Contends folderNote "a/b.md" "body" ∧
      (expectingZero "a//b.md" 2).Contends folderNote "a//b.md" "body" ∧
      folderNote.address (recordKey "a/b.md") = folderNote.address (recordKey "a//b.md") ∧
      IsSchedule [first, second, first, second] ∧ IsSchedule [first, first, second, second] ∧
      (onePair "a/b.md" [first, second, first, second]).BothSucceed ∧
      (onePair "a/b.md" [first, second, first, second]).vault.readRaw "a/b.md" =
        .ok "---\nx: 2\n---\nbody" ∧
      (onePair "a//b.md" [first, first, second, second]).BothSucceed := by
  refine ⟨contends_one, contends_two, contends_respelled, ?_, ?_, ?_, ?_, ?_, ?_⟩
  all_goals decide +kernel

end Schedule

end NoteVault.Upsert
