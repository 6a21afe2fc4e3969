import NoteVault.Proofs.Embedding.Search

/-! The search for the neighbours of a note leaves the note itself out, provided that its path is
left as it is when it is read as the path of a note once more. -/

namespace NoteVault.Embedding

variable {es : List Embedding} {p : Text} {o : SearchOptions} {hits : List Hit} {e : Embedding}

/-- The embedding that the search for the neighbours of a note starts from. -/
def ofNote? (es : List Embedding) (p : Text) : Option Embedding :=
  es.find? fun e => e.path == Path.ofNote p

theorem path_of_ofNote? (h : ofNote? es p = some e) : e.path = Path.ofNote p := by
  simpa using List.find?_some h

theorem searchByNote_eq_ok_iff [Sorting.Sorter] :
    searchByNote es p o = .ok hits ↔
      ∃ e ∈ ofNote? es p,
        search es e.vector { o with excludePath := some (Path.ofNote p) } = .ok hits := by
  unfold searchByNote ofNote?
  dsimp only
  cases es.find? fun e => e.path == Path.ofNote p <;> simp

/-- Whether the search for the neighbours of a note does not find the note itself, whatever else is
asked for and in whatever way the hits are sorted. -/
def LeavesOutItself (es : List Embedding) (p : Text) : Prop :=
  ∀ [Sorting.Sorter] o hits, searchByNote es p o = .ok hits →
    ∀ e ∈ ofNote? es p, ∀ h ∈ hits, h.path ≠ e.path

theorem leavesOutItself_of_stable (hstable : Path.ofNote (Path.ofNote p) = Path.ofNote p) :
    LeavesOutItself es p := by
  intro _ o hits hok e he h hh
  obtain ⟨f, -, hsearch⟩ := searchByNote_eq_ok_iff.mp hok
  obtain ⟨g, -, heligible, hshows⟩ := exists_of_mem_search hsearch hh
  have hne := heligible.path (Path.ofNote p) rfl
  rw [hshows.path, path_of_ofNote? he, ← hstable]
  exact hne

/-- The search for the neighbours of a note leaves the note out exactly if its path is left as it is
when it is read once more, or if no embedding of the note has a cosine with the first one of it. -/
theorem leavesOutItself_iff (document : Value) (p : Text) :
    LeavesOutItself (ofDocument document) p ↔
      Path.ofNote (Path.ofNote p) = Path.ofNote p ∨
        ∀ e ∈ ofNote? (ofDocument document) p, ∀ f ∈ ofDocument document, f.path = e.path →
          cosine? f.vector e.vector = none := by
  generalize ofDocument document = es
  constructor
  · intro hleaves
    by_cases hstable : Path.ofNote (Path.ofNote p) = Path.ofNote p
    · exact .inl hstable
    · refine .inr fun e he f hf hpath => ?_
      rw [Option.eq_none_iff_forall_not_mem]
      intro score hscore
      -- With as many hits as there are embeddings, the one of this score is among them.
      have hsearch : search es e.vector
          { topK := es.length, excludePath := some (Path.ofNote p) } = .ok _ :=
        search_eq_ok_iff.mpr ⟨_, rfl, rfl⟩
      have hok : searchByNote es p { topK := es.length } = .ok _ :=
        searchByNote_eq_ok_iff.mpr ⟨e, he, hsearch⟩
      have hne : f.path ≠ Path.ofNote (Path.ofNote p) := by
        rw [hpath, path_of_ofNote? he]
        exact fun heq => hstable heq.symm
      have heligible : IsEligible e.vector
          { topK := es.length, excludePath := some (Path.ofNote p) } f :=
        ⟨by simpa using hne, score, hscore, by simp⟩
      have hmem := mem_search (h := ⟨f.path, score, f.text⟩) le_rfl hsearch hf heligible
        ⟨rfl, hscore, rfl⟩
      exact hleaves _ _ hok e he _ hmem hpath
  · rintro (hstable | hnone)
    · exact leavesOutItself_of_stable hstable
    · intro _ o hits hok e he h hh hpath
      obtain ⟨e', he', hsearch⟩ := searchByNote_eq_ok_iff.mp hok
      obtain rfl := Option.mem_unique he he'
      obtain ⟨f, hf, -, hshows⟩ := exists_of_mem_search hsearch hh
      have hcosine := hnone e he f hf (hshows.path.symm.trans hpath)
      rw [hshows.score] at hcosine
      contradiction

/-- The slash behind the step `./` stays in the path of the embedding, but not in the path that is
left out. -/
theorem not_leavesOutItself_respelled :
    let document : Value := .list [.record [("path".toList, .text ".//a.md"),
      ("vector".toList, .list [.int 1])]]
    (searchByNote (ofDocument document) ".//a.md" {}).toOption.map (·.map Hit.path) =
        some ["/a.md".toList] ∧
      (ofNote? (ofDocument document) ".//a.md").map Embedding.path = some "/a.md".toList ∧
      ¬LeavesOutItself (ofDocument document) ".//a.md" := by
  intro document
  have hfound : (searchByNote (ofDocument document) ".//a.md" {}).toOption.map (·.map Hit.path) =
      some ["/a.md".toList] := by decide +kernel
  have hnote : (ofNote? (ofDocument document) ".//a.md").map Embedding.path =
      some "/a.md".toList := by decide +kernel
  refine ⟨hfound, hnote, fun hleaves => ?_⟩
  obtain ⟨e, he, hpath⟩ := Option.map_eq_some_iff.mp hnote
  cases hok : searchByNote (ofDocument document) ".//a.md" {} with
  | error f =>
    rw [hok] at hfound
    contradiction
  | ok hits =>
    rw [hok] at hfound
    have hpaths : hits.map Hit.path = ["/a.md".toList] := Option.some.inj hfound
    obtain ⟨h, hh, hpath'⟩ := List.map_eq_singleton_iff.mp hpaths
    exact hleaves {} hits hok e he h (by simp [hh]) (hpath'.trans hpath.symm)

end NoteVault.Embedding
