import NoteVault.Proofs.Vault.Writing
import NoteVault.Upsert.Basic

/-! The two phases of an upsert, and what both of them together do to a vault. -/

namespace NoteVault.Upsert

theorem exists_of_bind_eq_ok {α β : Type} {x : Except Fault α} {f : α → Except Fault β} {b : β}
    (h : x >>= f = .ok b) : ∃ a, x = .ok a ∧ f a = .ok b := by
  cases x with
  | error e => exact (nomatch h)
  | ok a => exact ⟨a, rfl, h⟩

theorem exists_of_toOption_bind {α β : Type} {x : Except Fault α} {f : α → Option β} {b : β}
    (h : x.toOption.bind f = some b) : ∃ a, x = .ok a ∧ f a = some b := by
  cases x with
  | error e => exact (nomatch h)
  | ok a => exact ⟨a, rfl, h⟩

variable {o : Upsert} {v w : Vault} {path markdown : Text} {expected now : Int}

/-- The path under which an upsert of a path finds the times of the note. -/
def lookupKey (path : Text) : Text := Path.ofNote path

/-- The path under which an upsert of a path reads and writes the note and records the write. -/
def recordKey (path : Text) : Text := Path.ofNote (Path.ofNote path)

/-- The time of last change that an upsert of a path finds. -/
def foundTime (v : Vault) (path : Text) : Int := (v.ledger.stat (lookupKey path)).mtime

/-- The text that an upsert makes of the text of a note. -/
def result (o : Upsert) (markdown : Text) : Text :=
  Frontmatter.render (Edit.applyAll o.edits (.ofMarkdown markdown)) (Fence.split markdown).2

/-- The bytes of the text that an upsert makes of the text of a note. -/
def resultBytes (o : Upsert) (markdown : Text) : Bytes := Utf8.encode (o.result markdown)

/-- Whether an upsert is valid, its note is there, and the time of last change is as expected. -/
structure Admitted (o : Upsert) (v : Vault) (path markdown : Text) : Prop where
  check : o.check = .ok path
  read : v.readRaw (lookupKey path) = .ok markdown
  expected : ∀ expected ∈ o.expected, expected = foundTime v path

/-- The plan of an upsert for a note. -/
def planOf (o : Upsert) (v : Vault) (path markdown : Text) : Plan :=
  ⟨path, foundTime v path, o.changed (.ofMarkdown markdown)⟩

theorem exists_readRaw_iff : (∃ markdown, v.readRaw (lookupKey path) = .ok markdown) ↔
    recordKey path ≠ [] ∧ (v.file? (recordKey path)).isSome = true := by
  rw [Option.isSome_iff_exists]
  constructor
  · rintro ⟨markdown, hread⟩
    obtain ⟨hne, bytes, hbytes, -⟩ := Vault.readRaw_eq_ok_iff.mp hread
    exact ⟨hne, bytes, hbytes⟩
  · rintro ⟨hne, bytes, hbytes⟩
    exact ⟨_, Vault.readRaw_eq_ok_iff.mpr ⟨hne, bytes, hbytes, rfl⟩⟩

theorem getNote_of_readRaw (hread : v.readRaw (lookupKey path) = .ok markdown) :
    v.getNote path =
      .ok (Note.ofMarkdown (lookupKey path) markdown (v.ledger.stat (lookupKey path))) :=
  Vault.getNote_eq_ok_iff.mpr ⟨markdown, hread, rfl⟩

theorem plan_eq (hcheck : o.check = .ok path) (hread : v.readRaw (lookupKey path) = .ok markdown) :
    o.plan v = match o.expected with
      | some expected => if expected = foundTime v path then .ok (o.planOf v path markdown)
        else .error (.conflict path expected (foundTime v path))
      | none => .ok (o.planOf v path markdown) := by
  rw [plan, hcheck]
  dsimp only [bind, Except.bind]
  rw [getNote_of_readRaw hread]
  dsimp only
  cases o.expected with
  | none => rfl
  | some expected =>
    change (if expected ≠ foundTime v path then _ else _) =
      if expected = foundTime v path then _ else _
    by_cases h : expected = foundTime v path
    · rw [if_neg (not_not_intro h), if_pos h]
      rfl
    · rw [if_pos h, if_neg h]
      rfl

theorem Admitted.plan (h : o.Admitted v path markdown) : o.plan v = .ok (o.planOf v path markdown) := by
  rw [plan_eq h.check h.read]
  cases hexpected : o.expected with
  | none => rfl
  | some expected => exact if_pos (h.expected expected hexpected)

theorem plan_of_stale (hcheck : o.check = .ok path)
    (hread : v.readRaw (lookupKey path) = .ok markdown) (hexpected : o.expected = some expected)
    (hstale : expected ≠ foundTime v path) :
    o.plan v = .error (.conflict path expected (foundTime v path)) := by
  rw [plan_eq hcheck hread, hexpected]
  exact if_neg hstale

theorem plan_cases (o : Upsert) (v : Vault) :
    (∃ f, o.plan v = .error f) ∨ ∃ path markdown, o.Admitted v path markdown := by
  cases hplan : o.plan v with
  | error f => exact .inl ⟨f, rfl⟩
  | ok p =>
    obtain ⟨path, hcheck, hrest⟩ := exists_of_bind_eq_ok hplan
    obtain ⟨note, hnote, -⟩ := exists_of_bind_eq_ok hrest
    obtain ⟨markdown, hread, -⟩ := Vault.getNote_eq_ok_iff.mp hnote
    refine .inr ⟨path, markdown, hcheck, hread, fun expected hexpected => ?_⟩
    by_contra hstale
    rw [plan_of_stale hcheck hread hexpected hstale] at hplan
    exact (nomatch hplan)

theorem commit_of_kept {p : Plan} (hchanged : p.changed = []) (o : Upsert) (v : Vault) (now : Int) :
    o.commit p v now = (.ok ⟨p.path, p.mtime, []⟩, v) := by
  rw [commit, hchanged]
  rfl

/-- The second phase of an upsert that changes something. It reads the note again. -/
theorem commit_of_changed {p : Plan} (hchanged : p.changed ≠ [])
    (hread : v.readRaw (lookupKey p.path) = .ok markdown) (o : Upsert) (now : Int) :
    ∃ w, o.commit p v now = (.ok ⟨p.path,
        (v.statBehind (recordKey p.path) (o.resultBytes markdown) now).mtime, p.changed⟩, w) ∧
      v.Wrote (recordKey p.path) (o.resultBytes markdown) now w := by
  rcases v.writeFrontmatter_cases p.path (Edit.run o.edits) now with
    ⟨f, -, herror⟩ | ⟨md, text, w, hmd, rfl, hw, hwrote⟩
  · unfold lookupKey at hread
    rw [hread] at herror
    exact (nomatch herror)
  · obtain rfl : markdown = md := Except.ok.inj (hread.symm.trans hmd)
    refine ⟨w, ?_, hwrote⟩
    rw [commit, if_neg (mt List.isEmpty_iff.mp hchanged), hw]
    rfl

theorem run_of_stale (hcheck : o.check = .ok path)
    (hread : v.readRaw (lookupKey path) = .ok markdown) (hexpected : o.expected = some expected)
    (hstale : expected ≠ foundTime v path) (now : Int) :
    o.run v now = (.error (.conflict path expected (foundTime v path)), v) := by
  rw [run, plan_of_stale hcheck hread hexpected hstale]

theorem Admitted.run_of_kept (h : o.Admitted v path markdown)
    (hchanged : o.changed (.ofMarkdown markdown) = []) (now : Int) :
    o.run v now = (.ok ⟨path, foundTime v path, []⟩, v) := by
  rw [run, h.plan]
  exact commit_of_kept hchanged o v now

theorem Admitted.run_of_changed (h : o.Admitted v path markdown)
    (hchanged : o.changed (.ofMarkdown markdown) ≠ []) (now : Int) :
    ∃ w, o.run v now = (.ok ⟨path,
        (v.statBehind (recordKey path) (o.resultBytes markdown) now).mtime,
        o.changed (.ofMarkdown markdown)⟩, w) ∧
      v.Wrote (recordKey path) (o.resultBytes markdown) now w := by
  obtain ⟨w, hw, hwrote⟩ := commit_of_changed (p := o.planOf v path markdown) hchanged h.read o now
  rw [run, h.plan]
  exact ⟨w, hw, hwrote⟩

theorem Admitted.run_eq_ok (h : o.Admitted v path markdown) (now : Int) :
    ∃ d w, o.run v now = (.ok d, w) := by
  by_cases hchanged : o.changed (.ofMarkdown markdown) = []
  · exact ⟨_, _, h.run_of_kept hchanged now⟩
  · obtain ⟨w, hw, -⟩ := h.run_of_changed hchanged now
    exact ⟨_, w, hw⟩

/-- What an upsert does: it is refused, nothing is to be changed, or the note is written. -/
inductive Effect (o : Upsert) (v : Vault) (now : Int) : Except Fault Done → Vault → Prop
  | refused (f : Fault) : Effect o v now (.error f) v
  | kept {path markdown : Text} (admitted : o.Admitted v path markdown)
      (changed : o.changed (.ofMarkdown markdown) = []) :
      Effect o v now (.ok ⟨path, foundTime v path, []⟩) v
  | written {path markdown : Text} {w : Vault} (admitted : o.Admitted v path markdown)
      (changed : o.changed (.ofMarkdown markdown) ≠ [])
      (wrote : v.Wrote (recordKey path) (o.resultBytes markdown) now w) :
      Effect o v now (.ok ⟨path, (v.statBehind (recordKey path) (o.resultBytes markdown) now).mtime,
        o.changed (.ofMarkdown markdown)⟩) w

theorem effect_run (o : Upsert) (v : Vault) (now : Int) :
    o.Effect v now (o.run v now).1 (o.run v now).2 := by
  rcases o.plan_cases v with ⟨f, hf⟩ | ⟨path, markdown, hadmitted⟩
  · rw [run, hf]
    exact .refused f
  · by_cases hchanged : o.changed (.ofMarkdown markdown) = []
    · rw [hadmitted.run_of_kept hchanged]
      exact .kept hadmitted hchanged
    · obtain ⟨w, hw, hwrote⟩ := hadmitted.run_of_changed hchanged now
      rw [hw]
      exact .written hadmitted hchanged hwrote

theorem effect_of_run {outcome : Except Fault Done} (h : o.run v now = (outcome, w)) :
    o.Effect v now outcome w := by
  have heffect := o.effect_run v now
  rw [h] at heffect
  exact heffect

end NoteVault.Upsert
