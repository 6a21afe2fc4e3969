import NoteVault.Proofs.Note.Rendering
import NoteVault.Proofs.Vault.Writing

/-! What a change of the metadata does to the bytes behind them. A body is read as a text and written
again, so its bytes are kept exactly if they are UTF-8. -/

namespace NoteVault

namespace Ledger

theorem head?_encode (l : Ledger) : (encode l).head? = some 0x7B := by
  have hpretty : ∃ t, Json.pretty l.toValue = '\x7b' :: t := ⟨_, rfl⟩
  obtain ⟨t, ht⟩ := hpretty
  rw [encode, ht, Utf8.encode_cons_of_ascii (by decide)]
  rfl

end Ledger

namespace Frontmatter

theorem head?_encode_block (m : Frontmatter) (rest : Bytes) :
    (Utf8.encode (block m) ++ rest).head? = some 0x2D := by
  have hblock : ∃ t, block m = '-' :: t := ⟨_, rfl⟩
  obtain ⟨t, ht⟩ := hblock
  rw [ht, Utf8.encode_cons_of_ascii (by decide)]
  rfl

end Frontmatter

namespace Vault

variable {v : Vault} {path : Text}

/-- A change of the metadata that leaves some writes them in front of the bytes behind the old ones.
Those bytes are kept exactly if they are UTF-8, unless the note is the ledger, which is written
over. -/
theorem writeFrontmatter_keeps_body_iff {α : Type} (change : Frontmatter → α × Frontmatter) (now : Int)
    (hok : (v.writeFrontmatter path change now).1.isOk = true) :
    ∃ key bytes m, key = Path.ofNote (Path.ofNote path) ∧ v.file? key = some bytes ∧
      m = (change (.ofMarkdown (Utf8.decode bytes))).2 ∧
      (m.isEmpty = false →
        ((v.writeFrontmatter path change now).2.file? key =
            some (Utf8.encode m.block ++ Fence.behind bytes) ↔
          ¬v.IsLedger key ∧ (Utf8.decode? (Fence.behind bytes)).isSome = true) ∧
        (¬v.IsLedger key → (v.writeFrontmatter path change now).2.file? key =
          some (Utf8.encode m.block ++ Utf8.encode (Utf8.decode (Fence.behind bytes))))) := by
  rcases v.writeFrontmatter_cases path change now with
    ⟨f, hw, -⟩ | ⟨markdown, text, w, hread, htext, hw, hwrote⟩
  · rw [hw] at hok
    contradiction
  obtain ⟨-, bytes, hbytes, rfl⟩ := readRaw_eq_ok_iff.mp hread
  refine ⟨_, bytes, _, rfl, hbytes, rfl, fun hm => ?_⟩
  rw [hw]
  generalize Path.ofNote (Path.ofNote path) = key at hwrote ⊢
  rw [← Fence.decode_behind, Frontmatter.render_of_not_isEmpty hm] at htext
  subst htext
  rw [Utf8.encode_append] at hwrote
  refine ⟨⟨fun hkept => ?_, ?_⟩, hwrote.file_self⟩
  · by_cases hledger : v.IsLedger key
    · -- The ledger is one JSON object, and a block begins with a dash.
      have hhead := hwrote.file key
      rw [if_pos hledger, hkept] at hhead
      have hbrace := Ledger.head?_encode (v.recorded key
        (Utf8.encode (change (.ofMarkdown (Utf8.decode bytes))).2.block ++
          Utf8.encode (Utf8.decode (Fence.behind bytes))) now)
      rw [← Option.some.inj hhead, Frontmatter.head?_encode_block] at hbrace
      exact absurd hbrace (by decide)
    · have hsame := hwrote.file_self hledger
      rw [hkept] at hsame
      have hbody := List.append_cancel_left (Option.some.inj hsame)
      exact ⟨hledger, Utf8.encode_decode_eq_iff.mp hbody.symm⟩
  · rintro ⟨hledger, hutf8⟩
    rw [hwrote.file_self hledger, Utf8.encode_decode_eq_iff.mpr hutf8]

/-- A vault with one file. -/
def oneFile (name : Text) (bytes : Bytes) : Vault :=
  ⟨"vault", ⟨.ofList [("vault/" ++ name, bytes)], .empty⟩⟩

/-- Sets one entry of some metadata. -/
def putX (m : Frontmatter) : Unit × Frontmatter := ((), m.insert "x" (.int 1))

theorem writeFrontmatter_keeps_body_note :
    ((oneFile "N.md" (Utf8.encode "---\na: 1\n---\r\nbody")).writeFrontmatter "N.md" putX 1).1.isOk =
        true ∧
      ((oneFile "N.md" (Utf8.encode "---\na: 1\n---\r\nbody")).writeFrontmatter "N.md" putX 1).2.file?
        "N.md" = some (Utf8.encode "---\na: 1\nx: 1\n---\nbody") := by
  have hok : ((oneFile "N.md" (Utf8.encode "---\na: 1\n---\r\nbody")).writeFrontmatter
      "N.md" putX 1).1.isOk = true := by decide +kernel
  obtain ⟨key, bytes, m, hkey, hbytes, hm, hwritten⟩ := writeFrontmatter_keeps_body_iff putX 1 hok
  obtain rfl : key = "N.md".toList := hkey
  have hfile : (oneFile "N.md" (Utf8.encode "---\na: 1\n---\r\nbody")).file? "N.md" =
      some (Utf8.encode "---\na: 1\n---\r\nbody") := by decide +kernel
  obtain rfl := Option.some.inj (hbytes.symm.trans hfile)
  subst hm
  have hutf8 := (hwritten (by decide +kernel)).1.mpr (by decide +kernel)
  refine ⟨hok, hutf8.trans ?_⟩
  decide +kernel

/-- A byte that is not UTF-8 is replaced by the three bytes of the replacement. -/
theorem writeFrontmatter_replaces_invalid :
    ((oneFile "v.json" [0x7B, 0x22, 0x61, 0xFF, 0x22, 0x3A, 0x5B, 0x31, 0x5D, 0x7D]).writeFrontmatter
        "v.json" putX 1).1.isOk = true ∧
      Fence.behind [0x7B, 0x22, 0x61, 0xFF, 0x22, 0x3A, 0x5B, 0x31, 0x5D, 0x7D] =
        [0x7B, 0x22, 0x61, 0xFF, 0x22, 0x3A, 0x5B, 0x31, 0x5D, 0x7D] ∧
      ((oneFile "v.json" [0x7B, 0x22, 0x61, 0xFF, 0x22, 0x3A, 0x5B, 0x31, 0x5D, 0x7D]).writeFrontmatter
        "v.json" putX 1).2.file? "v.json" =
        some (Utf8.encode "---\nx: 1\n---\n" ++
          [0x7B, 0x22, 0x61, 0xEF, 0xBF, 0xBD, 0x22, 0x3A, 0x5B, 0x31, 0x5D, 0x7D]) := by
  decide +kernel

end Vault

end NoteVault
