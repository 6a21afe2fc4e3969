import NoteVault.Proofs.Note.Path
import NoteVault.Proofs.Text.Letter

/-! Reading a path once more. What stands behind the slashes and the steps `./` at its beginning may itself
begin with a slash or a blank, which the first reading leaves in place and the next one drops. Only then
is the path of a note or the key of a base not left as it is by reading it once more. -/

namespace NoteVault.Path

variable {p q r s : Text}

/-- Some slashes and behind them some steps `./`: what the path of a note is read without. -/
def lead (slashes steps : Nat) : Text :=
  List.replicate slashes '/' ++ (List.replicate steps ['.', '/']).flatten

theorem eq_nil_or_slash_of_lead (n m : Nat) : lead n m = [] ∨ ∃ l, lead n m = l ++ ['/'] := by
  unfold lead
  cases m with
  | zero =>
    cases n with
    | zero => exact .inl rfl
    | succ n => exact .inr ⟨List.replicate n '/', by simp [List.replicate_succ']⟩
  | succ m =>
    refine .inr ⟨List.replicate n '/' ++ (List.replicate m ['.', '/']).flatten ++ ['.'], ?_⟩
    simp [List.replicate_succ', List.flatten_append]

theorem exists_dropHere (s : Text) :
    ∃ m, s = (List.replicate m ['.', '/']).flatten ++ dropHere s := by
  fun_induction dropHere s with
  | case1 s ih =>
    obtain ⟨m, hm⟩ := ih
    refine ⟨m + 1, ?_⟩
    rw [List.replicate_succ, List.flatten_cons, List.append_assoc, ← hm]
    rfl
  | case2 s h => exact ⟨0, rfl⟩

theorem dropHere_of_not_prefix (h : ¬['.', '/'] <+: s) : dropHere s = s := by
  unfold dropHere
  split
  · exact absurd (List.prefix_append ['.', '/'] _) h
  · rfl

theorem not_prefix_dropHere (s : Text) : ¬['.', '/'] <+: dropHere s := by
  fun_induction dropHere s with
  | case1 s ih => exact ih
  | case2 s h =>
    rintro ⟨t, rfl⟩
    exact h t rfl

theorem dropHere_append (m : Nat) (h : ¬['.', '/'] <+: r) :
    dropHere ((List.replicate m ['.', '/']).flatten ++ r) = r := by
  induction m with
  | zero => exact dropHere_of_not_prefix h
  | succ m ih =>
    rw [List.replicate_succ, List.flatten_cons, List.append_assoc]
    exact ih

theorem head?_dropWhile_slash (s : Text) : (s.dropWhile (· == '/')).head? ≠ some '/' := by
  intro h
  have hnot := List.head?_dropWhile_not (· == '/') s
  simp [h] at hnot

theorem dropWhile_slash_of_head? (h : s.head? ≠ some '/') : s.dropWhile (· == '/') = s := by
  cases s with
  | nil => rfl
  | cons c s =>
    have hc : c ≠ '/' := by simpa using h
    simp [hc]

/-- The path that is read behind the slashes and the steps `./` at the beginning. -/
theorem ofNote_eq_iff : ofNote p = r ↔ ∃ n m, (Text.trim p).map forward = lead n m ++ r ∧
    ¬['.', '/'] <+: r ∧ (m = 0 → r.head? ≠ some '/') := by
  rw [ofNote_eq]
  generalize (Text.trim p).map forward = t
  constructor
  · rintro rfl
    obtain ⟨m, hm⟩ := exists_dropHere (t.dropWhile (· == '/'))
    have hslashes : t.takeWhile (· == '/') = List.replicate (t.takeWhile (· == '/')).length '/' :=
      List.eq_replicate_of_mem fun c hc => by simpa using List.mem_takeWhile_imp hc
    refine ⟨(t.takeWhile (· == '/')).length, m, ?_, not_prefix_dropHere _, ?_⟩
    · rw [lead, ← hslashes, List.append_assoc, ← hm, List.takeWhile_append_dropWhile]
    · rintro rfl
      have hhead := head?_dropWhile_slash t
      rwa [hm] at hhead
  · rintro ⟨n, m, rfl, hhere, hslash⟩
    have hhead : ((List.replicate m ['.', '/']).flatten ++ r).head? ≠ some '/' := by
      cases m with
      | zero => exact hslash rfl
      | succ m => simp [List.replicate_succ]
    have hslashes : ∀ c ∈ List.replicate n '/', (c == '/') = true := by
      intro c hc
      simpa using (List.mem_replicate.mp hc).2
    rw [lead, List.append_assoc, List.dropWhile_append_of_pos hslashes,
      dropWhile_slash_of_head? hhead, dropHere_append m hhere]

/-- Whether nothing but a slash or a blank at its beginning keeps a path from being left as it is. -/
structure IsCleared (p : Text) : Prop where
  here : ¬['.', '/'] <+: p
  forward : p.map Path.forward = p
  last : ∀ c ∈ p.getLast?, Text.isBlank c = false

theorem IsCleared.ofNote_eq_self_iff (h : IsCleared p) :
    ofNote p = p ↔ ∀ c ∈ p.head?, Text.isBlank c = false ∧ c ≠ '/' := by
  constructor
  · intro hself c hc
    have htrim := Text.trim_eq_self_iff.mp (trim_of_ofNote hself)
    have hdrop := head?_dropWhile_slash p
    rw [dropWhile_of_ofNote hself, Option.mem_def.mp hc] at hdrop
    exact ⟨htrim.1 c hc, fun hslash => hdrop (congrArg some hslash)⟩
  · intro hhead
    have htrim : Text.trim p = p := Text.trim_eq_self_iff.mpr ⟨fun c hc => (hhead c hc).1, h.last⟩
    rw [ofNote_eq_iff]
    refine ⟨0, 0, ?_, h.here, ?_⟩
    · rw [htrim, h.forward]
      rfl
    · intro _ hslash
      exact (hhead '/' hslash).2 rfl

theorem isCleared_ofNote (p : Text) : IsCleared (ofNote p) := by
  obtain ⟨-, -, -, hhere, -⟩ := ofNote_eq_iff.mp (Eq.refl (ofNote p))
  exact ⟨hhere, map_forward_ofNote p, getLast?_ofNote p⟩

/-! ### Keys of bases -/

/-- Whether a text is an ending of the keys of bases, in any case of its letters. -/
def IsEnding (w : Text) : Prop := Text.lower w = ".base".toList

theorem exists_ofBase_eq (p : Text) : ∃ q w, ofBase p = q ++ w ∧ IsEnding w := by
  unfold ofBase
  dsimp only
  split
  · next hends =>
    obtain ⟨l, hl⟩ := Option.isSome_iff_exists.mp hends
    obtain ⟨q, w, hq, -, hw⟩ := List.map_eq_append_iff.mp (Text.before?_eq_some_iff.mp hl)
    exact ⟨q, w, hq, hw⟩
  · exact ⟨ofNote p, ".base", rfl, rfl⟩

/-- The key of a base ends in a letter `e`. -/
theorem exists_ofBase_eq_append (p : Text) : ∃ q c, ofBase p = q ++ [c] ∧ c.toLower = 'e' := by
  obtain ⟨q, w, hkey, hw⟩ := exists_ofBase_eq p
  have hlower : w.map Char.toLower = ".bas".toList ++ ['e'] := hw
  obtain ⟨t, last, rfl, -, hlast⟩ := List.map_eq_append_iff.mp hlower
  obtain ⟨c, rest, rfl, hc, hrest⟩ := List.map_eq_cons_iff.mp hlast
  obtain rfl := List.map_eq_nil_iff.mp hrest
  exact ⟨q ++ t, c, by rw [hkey, List.append_assoc], hc⟩

section Ending

variable {w : Text} (hw : IsEnding w)

include hw

theorem ofBase_of_isEnding (h : ofNote p = q ++ w) : ofBase p = ofNote p := by
  have hlower : Text.lower (ofNote p) = Text.lower q ++ ".base".toList := by
    rw [h, Text.lower, List.map_append, ← hw]
    rfl
  have hends : Text.endsIn ".base" (Text.lower (ofNote p)) = true := by
    rw [Text.endsIn, hlower, Text.before?_append]
    rfl
  rw [ofBase, if_pos hends]

theorem IsEnding.exists_eq_dot_cons : ∃ t, w = '.' :: t ∧ ∀ c ∈ t, c.isAlpha = true := by
  obtain ⟨c, t, rfl, hc, ht⟩ := List.map_eq_cons_iff.mp hw
  obtain rfl : c = '.' := Text.eq_dot_of_toLower hc
  have halike : Text.alike t "base" = true := Text.alike_iff.mpr ht
  exact ⟨t, rfl, Text.isAlpha_of_alike halike (List.all_eq_true.mp rfl)⟩

theorem IsEnding.slash_not_mem : '/' ∉ w := by
  obtain ⟨t, rfl, ht⟩ := hw.exists_eq_dot_cons
  intro hmem
  rcases List.mem_cons.mp hmem with heq | hmem
  · exact absurd heq (by decide)
  · exact absurd (ht _ hmem) (by decide)

theorem IsEnding.map_forward : w.map forward = w := by
  obtain ⟨t, rfl, ht⟩ := hw.exists_eq_dot_cons
  have hletters : ∀ c ∈ t, forward c = c := by
    intro c hc
    have hne : c ≠ '\\' := by
      rintro rfl
      exact absurd (ht _ hc) (by decide)
    exact if_neg hne
  have hmap : t.map forward = t := by simpa using List.map_congr_left (g := id) hletters
  rw [List.map_cons, hmap]
  rfl

theorem IsEnding.trim_append (q : Text) : Text.trim (q ++ w) = Text.trimStart q ++ w := by
  obtain ⟨t, rfl, ht⟩ := hw.exists_eq_dot_cons
  have hend : Text.trimEnd t = t := Text.trimEnd_eq_self_iff.mpr fun c hc =>
    Text.isBlank_eq_false_of_isAlpha (ht c (List.mem_of_mem_getLast? hc))
  rw [Text.trim_append_cons (by decide), hend]

/-- What a path is read without ends in a slash, so that it is nothing of the ending of a base. -/
theorem IsEnding.exists_ofNote_append (q : Text) : ∃ r, ofNote (q ++ w) = r ++ w := by
  obtain ⟨n, m, hread, -⟩ := ofNote_eq_iff.mp (Eq.refl (ofNote (q ++ w)))
  rw [hw.trim_append, List.map_append, hw.map_forward] at hread
  -- The dropped beginning ends in a slash, of which the ending has none, so that it ends in front of it.
  rcases List.append_eq_append_iff.mp hread with ⟨x, hlead, hx⟩ | ⟨x, -, hx⟩
  · rcases List.eq_nil_or_concat x with rfl | ⟨y, c, rfl⟩
    · exact ⟨[], hx.symm⟩
    · exfalso
      rcases eq_nil_or_slash_of_lead n m with hnil | ⟨l, hl⟩
      · rw [hnil] at hlead
        simp at hlead
      · rw [hl, List.concat_eq_append, ← List.append_assoc] at hlead
        obtain rfl : '/' = c := by simpa using congrArg List.getLast? hlead
        have hmem : '/' ∈ y.concat '/' ++ ofNote (q ++ w) := by simp
        rw [← hx] at hmem
        exact hw.slash_not_mem hmem
  · exact ⟨x, hx⟩

end Ending

theorem ofBase_ofBase (p : Text) : ofBase (ofBase p) = ofNote (ofBase p) := by
  obtain ⟨q, w, hkey, hw⟩ := exists_ofBase_eq p
  obtain ⟨r, hr⟩ := hw.exists_ofNote_append q
  rw [hkey]
  exact ofBase_of_isEnding hw hr

theorem ofBase_cases (p : Text) : ofBase p = ofNote p ∨ ofBase p = ofNote p ++ ".base".toList := by
  unfold ofBase
  dsimp only
  split
  · exact .inl rfl
  · exact .inr rfl

theorem IsCleared.append_base (h : IsCleared p) : IsCleared (p ++ ".base".toList) := by
  refine ⟨fun hhere => ?_, ?_, ?_⟩
  · match p with
    | [] => exact absurd hhere (by decide)
    | [c] => simp at hhere
    | c :: d :: p =>
      apply h.here
      simpa using hhere
  · rw [List.map_append, h.forward]
    rfl
  · simpa using (by decide : Text.isBlank 'e' = false)

theorem isCleared_ofBase (p : Text) : IsCleared (ofBase p) := by
  rcases ofBase_cases p with hkey | hkey
  · rw [hkey]
    exact isCleared_ofNote p
  · rw [hkey]
    exact (isCleared_ofNote p).append_base

theorem head_ofBase_iff (p : Text) :
    (∀ c ∈ (ofBase p).head?, Text.isBlank c = false ∧ c ≠ '/') ↔
      ∀ c ∈ (ofNote p).head?, Text.isBlank c = false ∧ c ≠ '/' := by
  rcases ofBase_cases p with hkey | hkey
  · rw [hkey]
  · rw [hkey]
    cases ofNote p with
    | nil => simpa using (by decide : Text.isBlank '.' = false)
    | cons c q => simp

/-! ### Reading once more -/

/-- Whether a slash stands behind a step `./`, or a blank stands, where the beginning that is dropped from
a path ends. -/
def Hides (p : Text) : Prop :=
  ∃ n m c r, (Text.trim p).map forward = lead n m ++ c :: r ∧
    (Text.isBlank c = true ∨ c = '/' ∧ m ≠ 0)

theorem not_hides_iff : ¬Hides p ↔ ∀ c ∈ (ofNote p).head?, Text.isBlank c = false ∧ c ≠ '/' := by
  constructor
  · intro h c hc
    obtain ⟨r, hr⟩ := List.head?_eq_some_iff.mp hc
    obtain ⟨n, m, hread, -, hslash⟩ := ofNote_eq_iff.mp hr
    constructor
    · rw [Bool.eq_false_iff]
      exact fun hblank => h ⟨n, m, c, r, hread, .inl hblank⟩
    · rintro rfl
      exact h ⟨n, m, '/', r, hread, .inr ⟨rfl, fun hm => hslash hm rfl⟩⟩
  · rintro h ⟨n, m, c, r, hread, hc⟩
    have hdot : c ≠ '.' := by
      rintro rfl
      rcases hc with hblank | ⟨hslash, -⟩
      · exact absurd hblank (by decide)
      · exact absurd hslash (by decide)
    have hpath : ofNote p = c :: r := by
      rw [ofNote_eq_iff]
      refine ⟨n, m, hread, ?_, ?_⟩
      · rintro ⟨t, ht⟩
        exact hdot (List.cons.inj ht).1.symm
      · rintro rfl hslash
        obtain rfl : c = '/' := Option.some.inj hslash
        rcases hc with hblank | ⟨-, hm⟩
        · exact absurd hblank (by decide)
        · exact hm rfl
    have hhead := h c (by rw [hpath]; rfl)
    rcases hc with hblank | ⟨hslash, -⟩
    · rw [hhead.1] at hblank
      contradiction
    · exact hhead.2 hslash

/-- Reading the path of a note or the key of a base once more leaves it as it is, exactly if no slash
stands behind the steps `./` at its beginning and no blank behind these or the slashes in front of them. -/
theorem reread_iff_not_hides (p : Text) :
    (ofNote (ofNote p) = ofNote p ↔ ¬Hides p) ∧ (ofBase (ofBase p) = ofBase p ↔ ¬Hides p) := by
  constructor
  · rw [(isCleared_ofNote p).ofNote_eq_self_iff, not_hides_iff]
  · rw [ofBase_ofBase, (isCleared_ofBase p).ofNote_eq_self_iff, head_ofBase_iff, not_hides_iff]

/-- The slash behind the step `./` is dropped by the second reading, and so is the blank behind a slash. -/
theorem not_reread_respelled :
    (ofNote ".//a.md" = "/a.md".toList ∧ ofNote "/a.md" = "a.md".toList) ∧
      (ofBase "/ T" = " T.base".toList ∧ ofBase " T.base" = "T.base".toList) ∧
      ¬∀ p, ofNote (ofNote p) = ofNote p ∧ ofBase (ofBase p) = ofBase p := by
  refine ⟨by decide, by decide, fun h => ?_⟩
  exact absurd (h ".//a.md").1 (by decide)

end NoteVault.Path
