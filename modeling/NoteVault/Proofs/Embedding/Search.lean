import NoteVault.Embedding.Search
import NoteVault.Proofs.Number.Single
import NoteVault.Proofs.Sorting
import NoteVault.Proofs.Text.Order

/-! A search finds the best embeddings that may be found, as many as are wanted, and the order in
which the embeddings are given does not count if their paths are different. -/

namespace NoteVault

namespace Hit

/-- Whether a hit ranks strictly before another: by a higher score, or by its path. -/
def Above (h g : Hit) : Prop :=
  g.score < h.score ∨ h.score == g.score ∧ Text.order h.path g.path = .lt

/-- Whether a hit may stand in front of another. -/
def Leads (h g : Hit) : Prop :=
  g.score < h.score ∨ h.score == g.score ∧ Text.order h.path g.path ≠ .gt

variable {h g k : Hit}

theorem before_iff_above (hh : h.score.isNaN = false) (hg : g.score.isNaN = false) :
    h.before g = true ↔ h.Above g := by
  simp only [before, Above, Single.lt_iff_rank hg hh, Single.lt_iff_rank hh hg,
    Single.beq_iff_rank hh hg]
  rcases lt_trichotomy (Single.rank g.score) (Single.rank h.score) with hlt | heq | hgt
  · simp [hlt]
  · simp [heq]
  · simp [hgt, hgt.asymm, hgt.ne]

theorem leads_iff_not_above (hh : h.score.isNaN = false) (hg : g.score.isNaN = false) :
    h.Leads g ↔ ¬g.Above h := by
  have hpath : Text.order h.path g.path ≠ .gt ↔ ¬Text.order g.path h.path = .lt := by
    rw [← Text.order_swap]
    cases Text.order g.path h.path <;> simp
  simp only [Leads, Above, Single.lt_iff_rank hg hh, Single.lt_iff_rank hh hg,
    Single.beq_iff_rank hh hg, Single.beq_iff_rank hg hh, hpath]
  rcases lt_trichotomy (Single.rank g.score) (Single.rank h.score) with hlt | heq | hgt
  · simp [hlt, hlt.asymm, hlt.ne]
  · simp [heq]
  · simp [hgt, hgt.asymm, hgt.ne]

theorem Leads.trans (hhg : h.Leads g) (hgk : g.Leads k) (hh : h.score.isNaN = false)
    (hg : g.score.isNaN = false) (hk : k.score.isNaN = false) : h.Leads k := by
  simp only [Leads, Single.lt_iff_rank hg hh, Single.lt_iff_rank hk hg, Single.lt_iff_rank hk hh,
    Single.beq_iff_rank hh hg, Single.beq_iff_rank hg hk, Single.beq_iff_rank hh hk] at *
  rcases hhg with hlt | ⟨heq, hpath⟩
  · rcases hgk with hlt' | ⟨heq', -⟩
    · exact .inl (hlt'.trans hlt)
    · exact .inl (heq' ▸ hlt)
  · rcases hgk with hlt' | ⟨heq', hpath'⟩
    · exact .inl (heq ▸ hlt')
    · exact .inr ⟨heq.trans heq', Text.order_ne_gt_trans hpath hpath'⟩

theorem Leads.path_eq (hhg : h.Leads g) (hgh : g.Leads h) (hh : h.score.isNaN = false)
    (hg : g.score.isNaN = false) : h.path = g.path := by
  simp only [Leads, Single.lt_iff_rank hg hh, Single.lt_iff_rank hh hg, Single.beq_iff_rank hh hg,
    Single.beq_iff_rank hg hh] at *
  rcases hhg with hlt | ⟨heq, hle⟩
  · rcases hgh with hgt | ⟨heq, -⟩
    · exact absurd hgt hlt.asymm
    · exact absurd heq hlt.ne
  · rcases hgh with hgt | ⟨-, hle'⟩
    · exact absurd heq hgt.ne
    · exact Text.eq_of_order_ne_gt hle hle'

theorem before_eq_false_iff (hh : h.score.isNaN = false) (hg : g.score.isNaN = false) :
    h.before g = false ↔ g.Leads h := by
  rw [leads_iff_not_above hg hh, ← before_iff_above hh hg, Bool.not_eq_true]

theorem isWeakOrder_before {hs : List Hit} (hnum : ∀ h ∈ hs, h.score.isNaN = false) :
    Sorting.IsWeakOrder before hs where
  asymm h hh g hg hbefore := by
    have habove := (before_iff_above (hnum h hh) (hnum g hg)).mp hbefore
    rw [before_eq_false_iff (hnum g hg) (hnum h hh)]
    rcases habove with hlt | ⟨heq, hpath⟩
    · exact .inl hlt
    · exact .inr ⟨heq, by simp [hpath]⟩
  trans h hh g hg k hk hhg hgk := by
    rw [before_eq_false_iff (hnum _ ‹_›) (hnum _ ‹_›)] at *
    exact hgk.trans hhg (hnum k hk) (hnum g hg) (hnum h hh)

end Hit

namespace Embedding

variable {es fs : List Embedding} {query : List Float32} {o : SearchOptions} {e : Embedding}
  {h : Hit}

/-- Whether an embedding may be found: its path is not left out, and it has a cosine that is not
below the least score that is wanted. -/
structure IsEligible (query : List Float32) (o : SearchOptions) (e : Embedding) : Prop where
  path : ∀ p ∈ o.excludePath, e.path ≠ Path.ofNote p
  score : ∃ score ∈ cosine? e.vector query, ∀ least ∈ o.minScore, ¬score < least

/-- Whether a hit tells of an embedding, with its cosine as the score. -/
structure Shows (query : List Float32) (e : Embedding) (h : Hit) : Prop where
  path : h.path = e.path
  score : cosine? e.vector query = some h.score
  text : h.text = e.text

theorem Shows.hit_eq {g : Hit} (hh : Shows query e h) (hg : Shows query e g) : h = g := by
  obtain ⟨_, _, _⟩ := h
  obtain ⟨_, _, _⟩ := g
  obtain ⟨rfl, hscore, rfl⟩ := hh
  obtain ⟨rfl, hscore', rfl⟩ := hg
  obtain rfl := Option.some.inj (hscore.symm.trans hscore')
  rfl

theorem excludes_eq_false_iff {p : Text} :
    o.excludes p = false ↔ ∀ q ∈ o.excludePath, p ≠ Path.ofNote q := by
  unfold SearchOptions.excludes
  cases o.excludePath <;> simp

theorem admits_eq_true_iff {score : Float32} :
    o.admits score = true ↔ ∀ least ∈ o.minScore, ¬score < least := by
  unfold SearchOptions.admits
  cases o.minScore <;> simp

theorem hit?_eq_some_iff : hit? query o e = some h ↔ IsEligible query o e ∧ Shows query e h := by
  unfold hit?
  constructor
  · intro hhit
    split at hhit
    · contradiction
    · next hpath =>
      rw [Bool.not_eq_true, excludes_eq_false_iff] at hpath
      obtain ⟨score, hscore, hhit⟩ := Option.bind_eq_some_iff.mp hhit
      split at hhit
      · next hadmits =>
        obtain rfl := Option.some.inj hhit
        exact ⟨⟨hpath, score, hscore, admits_eq_true_iff.mp hadmits⟩, ⟨rfl, hscore, rfl⟩⟩
      · contradiction
  · rintro ⟨⟨hpath, score, hscore, hadmits⟩, hshows⟩
    obtain ⟨path, _, text⟩ := h
    obtain ⟨rfl, hscore', rfl⟩ := hshows
    obtain rfl := Option.some.inj (hscore.symm.trans hscore')
    simp [excludes_eq_false_iff.mpr hpath, hscore', admits_eq_true_iff.mpr hadmits]

theorem isSome_hit?_iff : (hit? query o e).isSome ↔ IsEligible query o e := by
  rw [Option.isSome_iff_exists]
  constructor
  · rintro ⟨h, hh⟩
    exact (hit?_eq_some_iff.mp hh).1
  · intro he
    obtain ⟨score, hscore, -⟩ := he.score
    exact ⟨⟨e.path, score, e.text⟩, hit?_eq_some_iff.mpr ⟨he, rfl, hscore, rfl⟩⟩

instance : DecidablePred (IsEligible query o) := fun _ => decidable_of_iff _ isSome_hit?_iff

/-- The embeddings that may be found, each with its hit. -/
def scored (query : List Float32) (o : SearchOptions) (es : List Embedding) :
    List (Embedding × Hit) :=
  es.filterMap fun e => (hit? query o e).map (e, ·)

theorem mem_scored {x : Embedding × Hit} :
    x ∈ scored query o es ↔ x.1 ∈ es ∧ IsEligible query o x.1 ∧ Shows query x.1 x.2 := by
  simp only [scored, List.mem_filterMap, Option.map_eq_some_iff, ← hit?_eq_some_iff]
  constructor
  · rintro ⟨e, he, h, hh, rfl⟩
    exact ⟨he, hh⟩
  · rintro ⟨he, hh⟩
    exact ⟨x.1, he, x.2, hh, rfl⟩

theorem map_snd_scored : (scored query o es).map Prod.snd = es.filterMap (hit? query o) := by
  simp [scored, List.map_filterMap, Option.map_map, Function.comp_def]

theorem map_fst_scored :
    (scored query o es).map Prod.fst = es.filter fun e => IsEligible query o e := by
  unfold scored
  induction es with
  | nil => rfl
  | cons e es ih =>
    rw [List.filterMap_cons, List.filter_cons]
    cases he : hit? query o e with
    | none =>
      have hnot : ¬IsEligible query o e := by simp [← isSome_hit?_iff, he]
      simpa [hnot] using ih
    | some h =>
      have hyes : IsEligible query o e := by simp [← isSome_hit?_iff, he]
      simpa [hyes] using ih

/-- The embeddings that may be found, the best first. -/
def ranked (query : List Float32) (o : SearchOptions) (es : List Embedding) :
    List (Embedding × Hit) :=
  Sorting.ascending (fun x y => x.2.before y.2) (scored query o es)

theorem ranked_perm : (ranked query o es).Perm (scored query o es) := Sorting.ascending_perm _ _

theorem mem_ranked {x : Embedding × Hit} :
    x ∈ ranked query o es ↔ x.1 ∈ es ∧ IsEligible query o x.1 ∧ Shows query x.1 x.2 := by
  rw [ranked_perm.mem_iff, mem_scored]

section Sorter

variable [Sorting.Sorter] {hits : List Hit}

theorem search_eq_ok_iff : search es query o = .ok hits ↔
    ∃ sorted, Sorting.Sorter.sort Hit.before (es.filterMap (hit? query o)) = some sorted ∧
      sorted.take o.topK = hits := by
  unfold search
  cases Sorting.Sorter.sort Hit.before (es.filterMap (hit? query o)) <;> simp

/-- Every hit tells of an embedding that may be found. -/
theorem exists_of_mem_search (hok : search es query o = .ok hits) (hh : h ∈ hits) :
    ∃ e ∈ es, IsEligible query o e ∧ Shows query e h := by
  obtain ⟨sorted, hsorted, rfl⟩ := search_eq_ok_iff.mp hok
  have hmem := (Sorting.Sorter.perm hsorted).mem_iff.mp (List.mem_of_mem_take hh)
  obtain ⟨e, he, hhit⟩ := List.mem_filterMap.mp hmem
  exact ⟨e, he, hit?_eq_some_iff.mp hhit⟩

/-- If enough hits are wanted, every embedding that may be found is. -/
theorem mem_search (htop : es.length ≤ o.topK) (hok : search es query o = .ok hits) (he : e ∈ es)
    (heligible : IsEligible query o e) (hshows : Shows query e h) : h ∈ hits := by
  obtain ⟨sorted, hsorted, rfl⟩ := search_eq_ok_iff.mp hok
  have hperm := Sorting.Sorter.perm hsorted
  have hlen : sorted.length ≤ o.topK := by
    rw [hperm.length_eq]
    exact (List.length_filterMap_le _ es).trans htop
  rw [List.take_of_length_le hlen, hperm.mem_iff, List.mem_filterMap]
  exact ⟨e, he, hit?_eq_some_iff.mpr ⟨heligible, hshows⟩⟩

end Sorter

/-- Whether every score that is computed is a number. -/
def HasScores (es : List Embedding) (query : List Float32) (o : SearchOptions) : Prop :=
  ∀ e ∈ es, (∀ p ∈ o.excludePath, e.path ≠ Path.ofNote p) →
    ∀ score ∈ cosine? e.vector query, score.isNaN = false

instance : Decidable (HasScores es query o) :=
  inferInstanceAs (Decidable (∀ e ∈ es, (∀ p ∈ o.excludePath, e.path ≠ Path.ofNote p) →
    ∀ score ∈ cosine? e.vector query, score.isNaN = false))

namespace HasScores

variable {x y : Embedding × Hit}

theorem isNaN_eq_false (hscores : HasScores es query o) (hx : x ∈ scored query o es) :
    x.2.score.isNaN = false := by
  obtain ⟨hmem, heligible, hshows⟩ := mem_scored.mp hx
  exact hscores x.1 hmem heligible.path x.2.score hshows.score

theorem perm (hscores : HasScores es query o) (hperm : fs.Perm es) : HasScores fs query o :=
  fun e he => hscores e (hperm.mem_iff.mp he)

theorem isWeakOrder (hscores : HasScores es query o) :
    Sorting.IsWeakOrder (fun x y => x.2.before y.2) (scored query o es) := by
  refine (Sorting.isWeakOrder_map Prod.snd _).mp (Hit.isWeakOrder_before fun h hh => ?_)
  obtain ⟨x, hx, rfl⟩ := List.mem_map.mp hh
  exact hscores.isNaN_eq_false hx

/-- Where all scores are numbers, a search takes the hits of the ranking, in whatever way they are
sorted. -/
theorem search_eq [Sorting.Sorter] (hscores : HasScores es query o) :
    search es query o = .ok (((ranked query o es).take o.topK).map Prod.snd) := by
  rw [search_eq_ok_iff, ← map_snd_scored]
  refine ⟨_, Sorting.sort_map hscores.isWeakOrder, ?_⟩
  rw [List.map_take]
  rfl

theorem pairwise_ranked (hscores : HasScores es query o) :
    (ranked query o es).Pairwise fun x y => x.2.Leads y.2 := by
  refine (Sorting.pairwise_ascending hscores.isWeakOrder).imp_of_mem fun hx hy hnot => ?_
  have hnum : ∀ x ∈ ranked query o es, x.2.score.isNaN = false := fun x hx =>
    hscores.isNaN_eq_false (ranked_perm.mem_iff.mp hx)
  exact (Hit.before_eq_false_iff (hnum _ hy) (hnum _ hx)).mp hnot

/-- Embeddings with different paths have one ranking, in whatever order they are given. -/
theorem ranked_eq_of_perm (hscores : HasScores es query o) (hpaths : (es.map Embedding.path).Nodup)
    (hperm : fs.Perm es) : ranked query o fs = ranked query o es := by
  have hscored : (scored query o fs).Perm (scored query o es) := hperm.filterMap _
  have hranked : (ranked query o fs).Perm (ranked query o es) :=
    (ranked_perm.trans hscored).trans ranked_perm.symm
  refine hranked.eq_of_pairwise ?_ (hscores.perm hperm).pairwise_ranked hscores.pairwise_ranked
  intro x y hx hy hxy hyx
  have hx' := ranked_perm.mem_iff.mp (hranked.mem_iff.mp hx)
  have hy' := ranked_perm.mem_iff.mp hy
  have hpath := hxy.path_eq hyx (hscores.isNaN_eq_false hx') (hscores.isNaN_eq_false hy')
  obtain ⟨hxmem, -, hxshows⟩ := mem_scored.mp hx'
  obtain ⟨hymem, -, hyshows⟩ := mem_scored.mp hy'
  rw [hxshows.path, hyshows.path] at hpath
  have hembedding := List.inj_on_of_nodup_map hpaths hxmem hymem hpath
  exact Prod.ext hembedding (hxshows.hit_eq (hembedding ▸ hyshows))

end HasScores

/-- Hits that tell of the best embeddings that may be found, the best first, as many as are wanted
or all of them. -/
structure IsBest (es : List Embedding) (query : List Float32) (o : SearchOptions)
    (hits : List Hit) : Prop where
  length : hits.length = min o.topK (es.countP fun e => IsEligible query o e)
  ordered : hits.Pairwise Hit.Leads
  chosen : ∃ found left, (found ++ left).Perm (es.filter fun e => IsEligible query o e) ∧
    List.Forall₂ (Shows query) found hits ∧
    ∀ e ∈ left, ∀ g, Shows query e g → ∀ h ∈ hits, ¬g.Above h

/-- If all scores that are computed are numbers, a search finds the best embeddings that may be
found. Embeddings with different paths may be given in any order. -/
theorem search_isBest [Sorting.Sorter] (hscores : HasScores es query o) :
    ∃ hits, search es query o = .ok hits ∧ IsBest es query o hits ∧
      ((es.map Embedding.path).Nodup → ∀ fs, fs.Perm es → search fs query o = .ok hits) := by
  refine ⟨_, hscores.search_eq, ⟨?_, ?_, ?_⟩, fun hpaths fs hperm => ?_⟩
  · rw [List.length_map, List.length_take, ranked_perm.length_eq,
      List.countP_eq_length_filter, ← map_fst_scored, List.length_map]
  · rw [List.pairwise_map]
    exact hscores.pairwise_ranked.sublist (List.take_sublist _ _)
  · refine ⟨((ranked query o es).take o.topK).map Prod.fst,
      ((ranked query o es).drop o.topK).map Prod.fst, ?_, ?_, ?_⟩
    · rw [← List.map_append, List.take_append_drop, ← map_fst_scored]
      exact ranked_perm.map Prod.fst
    · rw [List.forall₂_map_left_iff, List.forall₂_map_right_iff, List.forall₂_same]
      exact fun x hx => (mem_ranked.mp (List.mem_of_mem_take hx)).2.2
    · intro e he g hg h hh
      obtain ⟨x, hx, rfl⟩ := List.mem_map.mp hh
      obtain ⟨y, hy, rfl⟩ := List.mem_map.mp he
      have hpairwise := hscores.pairwise_ranked
      rw [← List.take_append_drop o.topK (ranked query o es)] at hpairwise
      have hleads := (List.pairwise_append.mp hpairwise).2.2 x hx y hy
      have hx' := ranked_perm.mem_iff.mp (List.mem_of_mem_take hx)
      have hy' := ranked_perm.mem_iff.mp (List.mem_of_mem_drop hy)
      rw [hg.hit_eq (mem_scored.mp hy').2.2]
      exact (Hit.leads_iff_not_above (hscores.isNaN_eq_false hx') (hscores.isNaN_eq_false hy')).mp
        hleads
  · rw [(hscores.perm hperm).search_eq, hscores.ranked_eq_of_perm hpaths hperm]

theorem search_isBest_tie :
    let es : List Embedding := [⟨"c.md".toList, [2, 0], none⟩, ⟨"b.md".toList, [1, 0], none⟩,
      ⟨"d.md".toList, [1, 1], none⟩, ⟨"a.md".toList, [1, 0], none⟩, ⟨"e.md".toList, [0, 1], none⟩,
      ⟨"f.md".toList, [], none⟩]
    let o : SearchOptions := { topK := 2, minScore := some 0.5, excludePath := some "/a.md" }
    HasScores es [1, 0] o ∧ ∃ hits, search es [1, 0] o = .ok hits ∧ IsBest es [1, 0] o hits ∧
      hits.map Hit.path = ["b.md".toList, "c.md".toList] ∧ search es.reverse [1, 0] o = .ok hits := by
  intro es o
  have hscores : HasScores es [1, 0] o := by decide +kernel
  have hpaths : (search es [1, 0] o).toOption.map (·.map Hit.path) =
      some ["b.md".toList, "c.md".toList] := by decide +kernel
  obtain ⟨hits, hhits, hbest, hperm⟩ := search_isBest hscores
  rw [hhits] at hpaths
  exact ⟨hscores, hits, hhits, hbest, Option.some.inj hpaths, hperm (by decide) _ es.reverse_perm⟩

end Embedding

end NoteVault
