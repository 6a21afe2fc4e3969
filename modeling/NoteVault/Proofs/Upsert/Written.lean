import NoteVault.Proofs.Upsert.Run
import NoteVault.Proofs.Vault.Written

/-! The vault that an operation leaves, as a whole: the vault before it, or that vault with one note
written and recorded. -/

namespace NoteVault

open Address

namespace Upsert

variable {o : Upsert} {v : Vault} {path markdown : Text}

theorem Admitted.run_eq_written (h : o.Admitted v path markdown)
    (hchanged : o.changed (.ofMarkdown markdown) ≠ []) (now : Int) :
    o.run v now = (.ok ⟨path,
        (v.statBehind (recordKey path) (o.resultBytes markdown) now).mtime,
        o.changed (.ofMarkdown markdown)⟩,
      v.written (recordKey path) (o.resultBytes markdown) now) := by
  have hwrite := Vault.writeFrontmatter_eq h.read (Edit.run o.edits) now
  have hcommit : ¬(o.planOf v path markdown).changed.isEmpty = true := by
    simpa [planOf] using hchanged
  rw [run, h.plan]
  dsimp only
  rw [commit, if_neg hcommit]
  simp only [planOf, hwrite]
  rfl

end Upsert

namespace Op

variable {op : Op} {v : Vault} {now : Int} {key : Text}

/-- An operation that writes leaves the vault with one note written and recorded. -/
theorem run_eq_written (h : op.key? v now = some key) :
    isFolder (v.address key) = false ∧ ∃ bytes, op.run v now = v.written key bytes now := by
  cases op with
  | write path markdown =>
    rw [key?, Option.ite_none_right_eq_some] at h
    obtain ⟨hok, hkey⟩ := h
    obtain ⟨hne, hfile⟩ := Vault.isOk_writeNote_iff.mp hok
    have hwrite := Vault.writeNote_eq hne hfile markdown now
    obtain rfl : Path.ofNote path = key := Option.some.inj hkey
    exact ⟨hfile, _, by rw [run, hwrite]⟩
  | change path f =>
    rw [key?, Option.ite_none_right_eq_some] at h
    obtain ⟨hok, hkey⟩ := h
    rcases v.writeFrontmatter_cases path (fun m => ((), f m)) now with
      ⟨fault, hw, -⟩ | ⟨markdown, text, w, hread, -⟩
    · rw [hw] at hok
      contradiction
    · have hwrite := Vault.writeFrontmatter_eq hread (fun m => ((), f m)) now
      obtain ⟨-, bytes, hbytes, -⟩ := Vault.readRaw_eq_ok_iff.mp hread
      obtain rfl : Path.ofNote (Path.ofNote path) = key := Option.some.inj hkey
      exact ⟨Vault.not_isFolder_of_file? hbytes, _, by rw [run, hwrite]⟩
  | upsert o =>
    rcases o.plan_cases v with ⟨f, hf⟩ | ⟨path, markdown, hadmitted⟩
    · have hrun : o.run v now = (.error f, v) := by rw [Upsert.run, hf]
      simp [key?, hrun] at h
    · by_cases hchanged : o.changed (.ofMarkdown markdown) = []
      · simp [key?, hadmitted.run_of_kept hchanged] at h
      · have hrun := hadmitted.run_eq_written hchanged now
        obtain ⟨-, bytes, hbytes, -⟩ := Vault.readRaw_eq_ok_iff.mp hadmitted.read
        obtain rfl : Upsert.recordKey path = key := by
          simpa [key?, hrun, hchanged] using h
        exact ⟨Vault.not_isFolder_of_file? hbytes, _, by rw [run, hrun]⟩

end Op

end NoteVault
