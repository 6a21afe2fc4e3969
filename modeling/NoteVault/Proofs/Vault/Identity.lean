import NoteVault.Proofs.Vault.Sound

/-! When a path is the identity of its note. What a write tells about a note is what reading and listing
tell afterwards exactly if reading the path once more leaves it as it is and the file is listed under
that path alone. -/

namespace NoteVault

theorem Stat.exists_touch_ne {before : Option Stat}
    (h : ∀ s ∈ before, s.mtime + 2 ≤ Stat.lastTime) (m : Int) :
    ∃ now, isSigned64 now = true ∧ (Stat.touch before now).mtime ≠ m := by
  have htouch : ∀ now, Stat.lastTime - 1 ≤ now → (Stat.touch before now).mtime = now := by
    intro now hnow
    cases before with
    | none => rfl
    | some s =>
      have hs := h s rfl
      have hmtime := Stat.mtime_touch_eq (s := s) (by omega) now
      omega
  by_cases hm : m = Stat.lastTime
  · refine ⟨Stat.lastTime - 1, by decide, ?_⟩
    rw [htouch _ (Int.le_refl _), hm]
    decide
  · refine ⟨Stat.lastTime, by decide, ?_⟩
    rw [htouch _ (by omega)]
    exact Ne.symm hm

namespace Note

@[simp] theorem path_ofMarkdown (path markdown : Text) (stat : Stat) :
    (Note.ofMarkdown path markdown stat).path = Path.ofNote path := rfl

@[simp] theorem mtime_ofMarkdown (path markdown : Text) (stat : Stat) :
    (Note.ofMarkdown path markdown stat).mtime = stat.mtime := rfl

end Note

section Filter

variable {α β : Type} {l : List α}

theorem exists_of_filter_map_eq_singleton {f : α → β} {p : β → Bool} {b : β}
    (h : (l.map f).filter p = [b]) :
    ∃ a ∈ l, f a = b ∧ p b = true ∧ ∀ c ∈ l, p (f c) = true → c = a := by
  rw [List.filter_map, List.map_eq_singleton_iff] at h
  obtain ⟨a, hfilter, rfl⟩ := h
  have hmem : ∀ c, c ∈ l ∧ p (f c) = true ↔ c = a := by
    intro c
    have hc : c ∈ l.filter (p ∘ f) ↔ c ∈ [a] := by rw [hfilter]
    simpa using hc
  obtain ⟨ha, hp⟩ := (hmem a).mpr rfl
  exact ⟨a, ha, rfl, hp, fun c hc hpc => (hmem c).mp ⟨hc, hpc⟩⟩

theorem filter_eq_singleton [DecidableEq α] (hl : l.Nodup) {p : α → Bool} {a : α} (ha : a ∈ l)
    (hp : ∀ c ∈ l, p c = true ↔ c = a) : l.filter p = [a] := by
  have hcongr : l.filter p = l.filter (· == a) := by
    apply List.filter_congr
    intro c hc
    have hpc := hp c hc
    rw [Bool.eq_iff_iff, hpc, beq_iff_eq]
  rw [hcongr, List.filter_beq, List.count_eq_one_of_mem hl ha]
  rfl

end Filter

namespace Vault

open Address

variable {v w : Vault} {p q k markdown : Text} {bytes : Bytes} {now : Int} {note : Note}

/-- Whether a note is what a vault tells at a path and at the path of the note, and, if it is a note by
its extension, what it lists under that path. -/
structure Agrees (w : Vault) (p : Text) (note : Note) : Prop where
  here : w.getNote p = .ok note
  there : w.getNote note.path = .ok note
  listed : Path.hasExtension "md" (Path.ofNote p) = true →
    ∃ notes, w.listNotes = .ok notes ∧ notes.filter (·.path = note.path) = [note]

/-- Whether a path leads to the one under which its note is read and listed. -/
structure Canonical (v : Vault) (p : Text) : Prop where
  stable : Path.ofNote (Path.ofNote p) = Path.ofNote p
  listed : Path.hasExtension "md" (Path.ofNote p) = true → v.ListsAlone (Path.ofNote p)

section Write

variable (hfile : isFolder (v.address k) = false) (hledger : ¬v.IsLedger k)

include hfile hledger

theorem stat_written_of_ne (hnow : isSigned64 now = true) (hq : q ≠ k) (bytes : Bytes) :
    (v.written k bytes now).ledger.stat q = v.ledger.stat q := by
  have hget := (wrote_written hfile bytes now).get?_ledger hnow hledger q
  rw [Ledger.stat, hget, if_neg hq, Ledger.stat]

theorem stat_written_self (hnow : isSigned64 now = true) (bytes : Bytes) :
    (v.written k bytes now).ledger.stat k = Stat.touch (v.ledger.get? k) now := by
  have hget := (wrote_written hfile bytes now).get?_ledger hnow hledger k
  rw [Ledger.stat, hget, if_pos rfl]
  rfl

theorem listed_written_self (hnow : isSigned64 now = true) (markdown : Text) :
    (v.written k (Utf8.encode markdown) now).listed k =
      Note.ofMarkdown k markdown (Stat.touch (v.ledger.get? k) now) := by
  have hself := (wrote_written hfile (Utf8.encode markdown) now).file_self hledger
  rw [listed, hself, Option.getD_some, Utf8.decode_encode, stat_written_self hfile hledger hnow]

/-- A note whose path is left as it is by reading it once more is read as it was written. -/
theorem getNote_written (hnow : isSigned64 now = true) (hne : k ≠ []) (hk : Path.ofNote k = k)
    (hp : Path.ofNote p = k) (markdown : Text) :
    (v.written k (Utf8.encode markdown) now).getNote p =
      .ok (Note.ofMarkdown k markdown (Stat.touch (v.ledger.get? k) now)) := by
  have hself := (wrote_written hfile (Utf8.encode markdown) now).file_self hledger
  rw [getNote_eq_ok_iff, hp]
  refine ⟨markdown, ?_, ?_⟩
  · rw [readRaw_eq_ok_iff, hk]
    exact ⟨hne, _, hself, Utf8.decode_encode markdown⟩
  · rw [stat_written_self hfile hledger hnow]

variable (hroom : ∀ s ∈ v.ledger.get? k, s.mtime + 2 ≤ Stat.lastTime)

include hroom

/-- Times that are found under another path are not those of every write. -/
theorem eq_of_forall_mtime (h : ∀ now, isSigned64 now = true →
    (Stat.touch (v.ledger.get? k) now).mtime = ((v.written k [] now).ledger.stat q).mtime) :
    q = k := by
  by_contra hq
  obtain ⟨now, hnow, hne⟩ := Stat.exists_touch_ne hroom (v.ledger.stat q).mtime
  have hsame := stat_written_of_ne hfile hledger hnow hq []
  have htime := h now hnow
  rw [hsame] at htime
  exact hne htime

end Write

/-- The note that a write with nothing in it gives. -/
def emptyNote (v : Vault) (k : Text) (now : Int) : Note :=
  Note.ofMarkdown k [] (Stat.touch (v.ledger.get? k) now)

section Needed

variable (hfile : isFolder (v.address (Path.ofNote p)) = false)
  (hledger : ¬v.IsLedger (Path.ofNote p))
  (hroom : ∀ s ∈ v.ledger.get? (Path.ofNote p), s.mtime + 2 ≤ Stat.lastTime)
  (h : ∀ now, isSigned64 now = true →
    (v.written (Path.ofNote p) [] now).Agrees p (v.emptyNote (Path.ofNote p) now))

include hfile hledger hroom h

theorem ofNote_ofNote_of_agrees : Path.ofNote (Path.ofNote p) = Path.ofNote p := by
  apply Path.ofNote_of_ofNote_ofNote
  apply eq_of_forall_mtime hfile hledger hroom
  intro now hnow
  obtain ⟨markdown, -, hnote⟩ := getNote_eq_ok_iff.mp (h now hnow).there
  have hmtime := congrArg Note.mtime hnote
  simpa only [emptyNote, Note.path_ofMarkdown, Note.mtime_ofMarkdown] using hmtime

theorem exists_listed_of_agrees (hmd : Path.hasExtension "md" (Path.ofNote p) = true) (now : Int)
    (hnow : isSigned64 now = true) :
    ∃ q ∈ v.pathsWith (Path.ofNote p),
      (v.written (Path.ofNote p) [] now).listed q = v.emptyNote (Path.ofNote p) now ∧
        ∀ r ∈ v.pathsWith (Path.ofNote p), Path.ofNote r = Path.ofNote p → r = q := by
  have hstable := ofNote_ofNote_of_agrees hfile hledger hroom h
  obtain ⟨notes, hnotes, hfilter⟩ := (h now hnow).listed hmd
  obtain ⟨-, rfl⟩ := listNotes_eq_ok_iff.mp hnotes
  obtain ⟨q, hq, hlisted, -, halone⟩ := exists_of_filter_map_eq_singleton hfilter
  refine ⟨q, (mem_pathsWith hfile [] now).mp hq, hlisted, ?_⟩
  intro r hr hpath
  apply halone r ((mem_pathsWith hfile [] now).mpr hr)
  rw [decide_eq_true_eq]
  exact hpath.trans hstable.symm

theorem listsAlone_of_agrees (hmd : Path.hasExtension "md" (Path.ofNote p) = true) :
    v.ListsAlone (Path.ofNote p) := by
  have hstable := ofNote_ofNote_of_agrees hfile hledger hroom h
  obtain ⟨q, hq, -, halone⟩ :=
    exists_listed_of_agrees hfile hledger hroom h hmd 0 (by decide)
  -- the same path is listed whenever the note is written, so that its times must follow the clock
  have hself : q = Path.ofNote p := by
    apply eq_of_forall_mtime hfile hledger hroom
    intro now hnow
    obtain ⟨r, hr, hlisted, -⟩ := exists_listed_of_agrees hfile hledger hroom h hmd now hnow
    have hpath := congrArg Note.path hlisted
    have hmtime := congrArg Note.mtime hlisted
    simp only [listed, emptyNote, Note.path_ofMarkdown, Note.mtime_ofMarkdown] at hpath hmtime
    rw [← halone r hr (hpath.trans hstable)]
    exact hmtime.symm
  subst hself
  constructor
  · exact hq
  · exact halone
  · obtain ⟨notes, hnotes, -⟩ := (h 0 (by decide)).listed hmd
    exact (listNotes_eq_ok_iff.mp hnotes).1

end Needed

/-- A canonical path is the identity of what is written through it. -/
theorem Canonical.agrees (h : v.Canonical p) (hne : Path.ofNote p ≠ [])
    (hfile : isFolder (v.address (Path.ofNote p)) = false) (hledger : ¬v.IsLedger (Path.ofNote p))
    (hnow : isSigned64 now = true) (markdown : Text) :
    (v.written (Path.ofNote p) (Utf8.encode markdown) now).Agrees p
      (Note.ofMarkdown (Path.ofNote p) markdown
        (Stat.touch (v.ledger.get? (Path.ofNote p)) now)) := by
  constructor
  · exact getNote_written hfile hledger hnow hne h.stable rfl markdown
  · have hpath : Path.ofNote (Path.ofNote (Path.ofNote p)) = Path.ofNote p := by
      rw [h.stable, h.stable]
    exact getNote_written hfile hledger hnow hne h.stable hpath markdown
  · intro hmd
    obtain ⟨hfound, halone, hreadable⟩ := h.listed hmd
    have hmem := mem_pathsWith (q := Path.ofNote p) hfile (Utf8.encode markdown) now
    refine ⟨_, listNotes_eq_ok_iff.mpr ⟨?_, rfl⟩, ?_⟩
    · intro q hq
      rw [isSome_file?_written hfile]
      exact hreadable q ((mem_pathsWith hfile _ now).mp hq)
    · rw [List.filter_map, filter_eq_singleton (nodup_listPaths _ _) (hmem.mpr hfound)]
      · rw [List.map_singleton, listed_written_self hfile hledger hnow]
      · intro q hq
        simp only [Function.comp_apply, decide_eq_true_eq, Note.path_ofMarkdown, h.stable]
        constructor
        · exact halone q ((mem_pathsWith hfile _ now).mp hq)
        · rintro rfl
          exact h.stable

/-- A note that is written is what reading it by its path and listing it tell, whatever is written and
whenever, exactly if the path is canonical. In a sound vault this is a matter of the path and of the
other listed ones. -/
theorem agrees_iff_canonical (hne : Path.ofNote p ≠ [])
    (hfile : isFolder (v.address (Path.ofNote p)) = false) (hledger : ¬v.IsLedger (Path.ofNote p))
    (hroom : ∀ s ∈ v.ledger.get? (Path.ofNote p), s.mtime + 2 ≤ Stat.lastTime) :
    ((∀ markdown now, isSigned64 now = true →
        ∃ note w, v.writeNote p markdown now = (.ok note, w) ∧ w.Agrees p note) ↔ v.Canonical p) ∧
      (v.IsSound → (v.Canonical p ↔ Path.ofNote (Path.ofNote p) = Path.ofNote p ∧
        (Path.hasExtension "md" (Path.ofNote p) = true →
          Path.isReserved (Path.ofNote p) = false ∧ [] ∉ Text.pieces (· == '/') (Path.ofNote p) ∧
            ∀ q ∈ v.listPaths "md", Path.ofNote q = Path.ofNote p → q = Path.ofNote p))) := by
  refine ⟨⟨?_, ?_⟩, ?_⟩
  · intro h
    have hempty : ∀ now, isSigned64 now = true →
        (v.written (Path.ofNote p) [] now).Agrees p (v.emptyNote (Path.ofNote p) now) := by
      intro now hnow
      obtain ⟨note, w, hwrite, hagrees⟩ := h [] now hnow
      rw [writeNote_eq hne hfile, statBehind_eq hledger] at hwrite
      obtain ⟨hnote, rfl⟩ := Prod.mk.inj hwrite
      obtain rfl := Except.ok.inj hnote
      exact hagrees
    constructor
    · exact ofNote_ofNote_of_agrees hfile hledger hroom hempty
    · exact listsAlone_of_agrees hfile hledger hroom hempty
  · intro h markdown now hnow
    refine ⟨_, _, writeNote_eq hne hfile markdown now, ?_⟩
    rw [statBehind_eq hledger]
    exact h.agrees hne hfile hledger hnow markdown
  · intro hsound
    constructor
    · intro h
      refine ⟨h.stable, fun hmd => ?_⟩
      exact (listsAlone_iff hsound h.stable hne hfile hmd).mp (h.listed hmd)
    · rintro ⟨hstable, hlisted⟩
      exact ⟨hstable, fun hmd => (listsAlone_iff hsound hstable hne hfile hmd).mpr (hlisted hmd)⟩

/-- A vault with one note, whose times are known. -/
def oneNote : Vault :=
  (Vault.mk "vault" ⟨.ofList [("vault/a.md", Utf8.encode "a")], .empty⟩).written "a.md" [] 5

theorem agrees_iff_canonical_oneNote :
    Path.ofNote "./b.md" ≠ [] ∧ isFolder (oneNote.address (Path.ofNote "./b.md")) = false ∧
      ¬oneNote.IsLedger (Path.ofNote "./b.md") ∧
      (∀ s ∈ oneNote.ledger.get? (Path.ofNote "./b.md"), s.mtime + 2 ≤ Stat.lastTime) ∧
      oneNote.IsSound ∧ oneNote.listPaths "md" = ["a.md".toList] ∧ oneNote.Canonical "./b.md" ∧
      ∀ markdown now, isSigned64 now = true →
        ∃ note w, oneNote.writeNote "./b.md" markdown now = (.ok note, w) ∧ w.Agrees "./b.md" note := by
  have hne : Path.ofNote "./b.md" ≠ [] := by decide
  have hfile : isFolder (oneNote.address (Path.ofNote "./b.md")) = false := by decide +kernel
  have hledger : ¬oneNote.IsLedger (Path.ofNote "./b.md") := by decide +kernel
  have hroom : ∀ s ∈ oneNote.ledger.get? (Path.ofNote "./b.md"), s.mtime + 2 ≤ Stat.lastTime := by
    decide +kernel
  have hsound : oneNote.IsSound := by decide +kernel
  have hpaths : oneNote.listPaths "md" = ["a.md".toList] := by decide +kernel
  obtain ⟨hagrees, hcanonical⟩ := agrees_iff_canonical hne hfile hledger hroom
  have hp : oneNote.Canonical "./b.md" := by
    rw [hcanonical hsound, hpaths]
    decide
  exact ⟨hne, hfile, hledger, hroom, hsound, hpaths, hp, hagrees.mpr hp⟩

/-- The slash behind the step `./` is left in place, so that the write is recorded under a path that no
reader of the note uses. -/
theorem not_agrees_respelled :
    (oneNote.address (Path.ofNote ".//b.md") = "vault/b.md".toList ∧
      ¬oneNote.IsLedger (Path.ofNote ".//b.md")) ∧
      ∃ note w, oneNote.writeNote ".//b.md" "x" 9 = (.ok note, w) ∧ note.path = "b.md".toList ∧
        note.mtime = 9 ∧ (w.getNote note.path).toOption.map Note.mtime = some 0 ∧
        ¬w.Agrees ".//b.md" note := by
  have hne : Path.ofNote ".//b.md" ≠ [] := by decide
  have hfile : isFolder (oneNote.address (Path.ofNote ".//b.md")) = false := by decide +kernel
  have hpath : (oneNote.writeNote ".//b.md" "x" 9).1.toOption.map Note.path =
      some "b.md".toList := by decide +kernel
  have hwritten : (oneNote.writeNote ".//b.md" "x" 9).1.toOption.map Note.mtime = some 9 := by
    decide +kernel
  have hread : ((oneNote.writeNote ".//b.md" "x" 9).2.getNote "b.md").toOption.map Note.mtime =
      some 0 := by decide +kernel
  have hwrite := writeNote_eq hne hfile "x" 9
  generalize Note.ofMarkdown _ _ _ = note at hwrite
  generalize oneNote.written _ _ _ = w at hwrite
  rw [hwrite] at hpath hwritten hread
  obtain hpath : note.path = "b.md".toList := Option.some.inj hpath
  obtain hwritten : note.mtime = 9 := Option.some.inj hwritten
  rw [← hpath] at hread
  refine ⟨⟨by decide +kernel, by decide +kernel⟩, note, w, hwrite, hpath, hwritten, hread, ?_⟩
  intro hagrees
  rw [hagrees.there] at hread
  have hzero : note.mtime = 0 := Option.some.inj hread
  omega

end Vault

end NoteVault
