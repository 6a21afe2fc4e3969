import NoteVault.Proofs.Vault.Listing

/-! Vaults in which listing leads back to the files. There a note is listed under the path through which
it is written if that path has no empty steps. -/

namespace NoteVault.Vault

open Address

variable {v : Vault} {q k : Text}

/-- Whether the folder of a vault is its own address, and every file in it is reached by the path under
which it is listed. -/
structure IsSound (v : Vault) : Prop where
  root : Address.ofPath v.folder = v.folder
  files : ∀ a ∈ v.store.filesWithin v.folder, v.address (Path.relative v.root a) = a

instance (v : Vault) : Decidable v.IsSound :=
  decidable_of_iff (Address.ofPath v.folder = v.folder ∧
      ∀ a ∈ v.store.filesWithin v.folder, v.address (Path.relative v.root a) = a)
    ⟨fun h => ⟨h.1, h.2⟩, fun h => ⟨h.root, h.files⟩⟩

section Sound

variable (hsound : v.IsSound) (hk : Path.ofNote k = k) (hne : k ≠ [])
  (hfile : isFolder (v.address k) = false)

include hsound

theorem address_of_mem_listPaths {ext : Text} (hq : q ∈ v.listPaths ext) :
    v.address q ∈ v.store.files.keys := by
  obtain ⟨⟨a, ha, rfl⟩, -, -⟩ := mem_listPaths.mp hq
  rw [hsound.files a ha]
  exact (mem_filesWithin.mp ha).1

include hk hne hfile

/-- A file that is written is listed under its steps; the ledger is no note. -/
theorem mem_pathsWith_iff : q ∈ v.pathsWith k ↔ q ∈ v.listPaths "md" ∨
    q = Text.join ['/'] (steps k) ∧ Path.isReserved q = false ∧
      Path.hasExtension "md" q = true := by
  have hroot := root_written hfile [] 0
  have hself := relative_address hsound.root hk hne hfile
  have hwithin := isWithin_folder hsound.root hk hne hfile
  have hledger := relative_address_of_isNormal hsound.root isNormal_ledgerPath
  simp only [pathsWith, mem_listPaths, mem_filesWithin, mem_keys_written hfile, hroot,
    folder_congr hroot]
  constructor
  · rintro ⟨⟨a, ⟨hkeys, hin⟩, hq⟩, hreserved, hmd⟩
    rcases hkeys with ha | ha | ha
    · have hjson : Path.hasExtension "md" ledgerPath = false := by decide
      rw [ha, hledger] at hq
      rw [← hq, hjson] at hmd
      exact absurd hmd Bool.false_ne_true
    · rw [ha, hself] at hq
      exact .inr ⟨hq.symm, hreserved, hmd⟩
    · exact .inl ⟨⟨a, ⟨ha, hin⟩, hq⟩, hreserved, hmd⟩
  · rintro (⟨⟨a, ⟨ha, hin⟩, hq⟩, hreserved, hmd⟩ | ⟨hq, hreserved, hmd⟩)
    · exact ⟨⟨a, ⟨.inr (.inr ha), hin⟩, hq⟩, hreserved, hmd⟩
    · exact ⟨⟨v.address k, ⟨.inr (.inl rfl), hwithin⟩, hself.trans hq.symm⟩, hreserved, hmd⟩

theorem join_steps_of_found (h : k ∈ v.pathsWith k) : Text.join ['/'] (steps k) = k := by
  rcases (mem_pathsWith_iff hsound hk hne hfile).mp h with hold | hnew
  · obtain ⟨⟨a, ha, hrelative⟩, -, -⟩ := mem_listPaths.mp hold
    have haddress := hsound.files a ha
    rw [hrelative] at haddress
    rw [← relative_address hsound.root hk hne hfile, haddress, hrelative]
  · exact hnew.1.symm

/-- In a sound vault the note of a path is listed under that path alone if it has no empty steps and no
other listed path is read as it. -/
theorem listsAlone_iff (hmd : Path.hasExtension "md" k = true) :
    v.ListsAlone k ↔ Path.isReserved k = false ∧ [] ∉ Text.pieces (· == '/') k ∧
      ∀ q ∈ v.listPaths "md", Path.ofNote q = k → q = k := by
  constructor
  · rintro ⟨hfound, halone, -⟩
    have hjoin := join_steps_of_found hsound hk hne hfile hfound
    refine ⟨(mem_listPaths.mp hfound).2.1, ?_, ?_⟩
    · intro hempty
      rw [← hjoin, Text.pieces_join (steps_ne_nil hk hne) fun t ht => not_mem_of_mem_steps ht] at hempty
      simpa using List.of_mem_filter hempty
    · intro q hq
      exact halone q ((mem_pathsWith_iff hsound hk hne hfile).mpr (.inl hq))
  · rintro ⟨hreserved, hsteps, hcollide⟩
    have hjoin : Text.join ['/'] (steps k) = k := by
      rw [steps_eq_pieces ⟨hk, hsteps⟩, Text.join_pieces]
    constructor
    · exact (mem_pathsWith_iff hsound hk hne hfile).mpr (.inr ⟨hjoin.symm, hreserved, hmd⟩)
    · intro q hq hpath
      rcases (mem_pathsWith_iff hsound hk hne hfile).mp hq with hold | ⟨hnew, -, -⟩
      · exact hcollide q hold hpath
      · exact hnew.trans hjoin
    · intro q hq
      have hwrote := wrote_written hfile [] 0
      rcases (mem_pathsWith_iff hsound hk hne hfile).mp hq with hold | ⟨hnew, -, -⟩
      · have hkey := address_of_mem_listPaths hsound hold
        obtain ⟨bytes, hbytes⟩ := Index.mem_keys_iff.mp hkey
        have hq' := not_isFolder_of_hasExtension (mem_listPaths.mp hold).2.2 v
        apply hwrote.isSome_file?
        rw [file?_eq_get? hq', hbytes]
        rfl
      · rw [hnew.trans hjoin]
        by_cases hledger : v.IsLedger k
        · rw [hwrote.file, if_pos hledger]
          rfl
        · rw [hwrote.file_self hledger]
          rfl

end Sound

end NoteVault.Vault
