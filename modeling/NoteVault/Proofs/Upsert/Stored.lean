import NoteVault.Proofs.Note.Rendering
import NoteVault.Proofs.Upsert.Wanted

/-! What an upsert leaves of a note. The metadata that it writes are those that it should leave, but
the next reader finds them only if they outlast being written and read. -/

namespace NoteVault

namespace Frontmatter

variable {m : Frontmatter} {body : Text}

/--
Whether metadata outlast being written in front of a body and read again. If there are none, the body
must not begin with metadata of its own. Others stand in a block: their YAML text must end in a line
feed, since the fence behind it is one only there, and it is read without that line end.
-/
def Lasts (m : Frontmatter) (body : Text) : Prop :=
  if m.isEmpty then (ofMarkdown body).isEmpty = true
  else (encode m).getLast? = some '\n' ∧ (ofBlock (Text.withoutLineEnd (encode m))).Matches m

theorem matches_iff_of_isEmpty {n : Frontmatter} (h : m.isEmpty = true) :
    n.Matches m ↔ n.isEmpty = true := by
  have hm : m.entries = [] := List.isEmpty_iff.mp h
  constructor
  · intro hmatches
    cases hn : n.entries with
    | nil => exact List.isEmpty_iff.mpr hn
    | cons e es =>
      have hkey := hmatches e.1
      have hget : n.get? e.1 = some e.2 := Record.get?_eq_some_iff.mpr (hn ▸ List.mem_cons_self)
      rw [hget, Record.get?, hm] at hkey
      cases hkey
  · intro hn key
    rw [Record.get?, Record.get?, hm, List.isEmpty_iff.mp hn]
    exact .none

theorem not_matches_empty (h : m.isEmpty = false) : ¬Matches .empty m := by
  intro hmatches
  obtain ⟨e, es, he⟩ := List.exists_cons_of_ne_nil (entries_ne_nil h)
  have hkey := hmatches e.1
  have hget : m.get? e.1 = some e.2 := Record.get?_eq_some_iff.mpr (he ▸ List.mem_cons_self)
  rw [hget] at hkey
  cases hkey

theorem lasts_iff : m.Lasts body ↔ (ofMarkdown (render m body)).Matches m := by
  unfold Lasts
  split_ifs with hempty
  · rw [render_of_isEmpty hempty, matches_iff_of_isEmpty hempty]
  · rw [Bool.not_eq_true] at hempty
    by_cases hend : (encode m).getLast? = some '\n'
    · rw [ofMarkdown_render hempty hend, and_iff_right hend]
    · rw [ofMarkdown_render_of_not_ended hempty hend]
      exact iff_of_false (fun h => hend h.1) (not_matches_empty hempty)

end Frontmatter

namespace Upsert

variable {o : Upsert} {v w : Vault} {d : Done} {now : Int}

/-- After an upsert the note can be read. It has the metadata that the upsert should leave exactly if
no key is changed or the new metadata outlast being written in front of the body. -/
theorem leaves_iff_lasts (hrun : o.run v now = (.ok d, w)) (hledger : ¬v.IsLedger (recordKey d.path)) :
    ∃ markdown before after, v.readRaw (lookupKey d.path) = .ok markdown ∧
      v.getNote d.path = .ok before ∧ w.getNote d.path = .ok after ∧
      (o.Leaves before.frontmatter after.frontmatter ↔
        d.changed = [] ∨
          (Edit.applyAll o.edits before.frontmatter).Lasts (Fence.split markdown).2) := by
  cases effect_of_run hrun with
  | kept hadmitted hchanged =>
    have hnote := getNote_of_readRaw hadmitted.read
    exact ⟨_, _, _, hadmitted.read, hnote, hnote, iff_of_true (leaves_of_unchanged hchanged) (.inl rfl)⟩
  | @written path markdown w hadmitted hchanged hwrote =>
    obtain ⟨hne, -⟩ := Vault.readRaw_eq_ok_iff.mp hadmitted.read
    have hread := hwrote.readRaw (p := lookupKey path) hledger hne
    refine ⟨_, _, _, hadmitted.read, getNote_of_readRaw hadmitted.read, getNote_of_readRaw hread, ?_⟩
    rw [leaves_iff hadmitted.check, or_iff_right hchanged, Frontmatter.lasts_iff]
    rfl

/-- A vault with one note, which has no metadata. -/
def plainNote : Vault := ⟨"vault", ⟨.ofList [("vault/N.md", Utf8.encode "body")], .empty⟩⟩

/-- Sets one key of that note to a text. -/
def setting (t : Text) : Upsert := ⟨"N.md", .ofList [("x", .text t)], [], none⟩

theorem run_setting_done :
    (setting "done").run plainNote 1 =
      (.ok ⟨"N.md", 1, ["x".toList]⟩, ((setting "done").run plainNote 1).2) :=
  Prod.ext (by decide +kernel) rfl

theorem leaves_iff_lasts_done :
    (setting "done").run plainNote 1 =
        (.ok ⟨"N.md", 1, ["x".toList]⟩, ((setting "done").run plainNote 1).2) ∧
      ¬plainNote.IsLedger (recordKey "N.md") ∧
      ∃ markdown before after, plainNote.readRaw (lookupKey "N.md") = .ok markdown ∧
        plainNote.getNote "N.md" = .ok before ∧
        ((setting "done").run plainNote 1).2.getNote "N.md" = .ok after ∧
        ((setting "done").Leaves before.frontmatter after.frontmatter ↔
          ["x".toList] = [] ∨
            (Edit.applyAll (setting "done").edits before.frontmatter).Lasts
              (Fence.split markdown).2) :=
  have hledger : ¬plainNote.IsLedger (recordKey "N.md") := by decide +kernel
  ⟨run_setting_done, hledger, leaves_iff_lasts run_setting_done hledger⟩

/-- The text under the key of that note. -/
def keptText? (m : Frontmatter) : Option Text := (m.get? "x").bind Value.text?

theorem not_leaves_of_keptText? {before after : Frontmatter} {t u : Text}
    (hkept : keptText? after = some u) (hne : u ≠ t) : ¬(setting t).Leaves before after := by
  intro hleaves
  obtain ⟨v, hv, hmatches⟩ := hleaves.set "x" (.text t) rfl
  rw [keptText?, hv, Option.bind_some] at hkept
  cases v with
  | text u' =>
    obtain rfl := Option.some.inj hkept
    rcases hmatches with heq | hsame
    · exact hne (Value.text.inj heq)
    · exact hne (by simpa [Value.same] using hsame)
  | _ => contradiction

/-- A text that ends in a line feed loses it, although its YAML text as a whole is read back. -/
theorem not_leaves_setting_lineFeed :
    ∃ d w before after, (setting "a\n").run plainNote 1 = (.ok d, w) ∧
      plainNote.getNote d.path = .ok before ∧ w.getNote d.path = .ok after ∧
      (Frontmatter.decode? (Frontmatter.encode
        (Edit.applyAll (setting "a\n").edits before.frontmatter))).bind keptText? =
          some "a\n".toList ∧
      ¬(setting "a\n").Leaves before.frontmatter after.frontmatter := by
  have hrun : (setting "a\n").run plainNote 1 =
      (.ok ⟨"N.md", 1, ["x".toList]⟩, ((setting "a\n").run plainNote 1).2) :=
    Prod.ext (by decide +kernel) rfl
  have hwhole : (plainNote.getNote "N.md").toOption.bind (fun n =>
      (Frontmatter.decode? (Frontmatter.encode
        (Edit.applyAll (setting "a\n").edits n.frontmatter))).bind keptText?) =
          some "a\n".toList := by decide +kernel
  have hkept : (((setting "a\n").run plainNote 1).2.getNote "N.md").toOption.bind
      (fun n => keptText? n.frontmatter) = some "a".toList := by decide +kernel
  obtain ⟨before, hbefore, hwhole⟩ := exists_of_toOption_bind hwhole
  obtain ⟨after, hafter, hkept⟩ := exists_of_toOption_bind hkept
  exact ⟨_, _, before, after, hrun, hbefore, hafter, hwhole,
    not_leaves_of_keptText? hkept (by decide)⟩

end Upsert

end NoteVault
