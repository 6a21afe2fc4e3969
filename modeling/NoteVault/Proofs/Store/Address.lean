import NoteVault.Proofs.Text.Trim
import NoteVault.Store.Basic

/-! The addresses that paths lead to. A path that ends in a character of a name leads to a file. -/

namespace NoteVault

namespace Text

theorem exists_pieces_append (p : Char → Bool) (s : Text) {c : Char} (hc : p c = false) :
    ∃ ts t, pieces p (s ++ [c]) = ts ++ [t ++ [c]] := by
  induction s with
  | nil => exact ⟨[], [], by simp [pieces, hc]⟩
  | cons d s ih =>
    obtain ⟨ts, t, hts⟩ := ih
    rw [List.cons_append, pieces, hts]
    by_cases hd : p d = true
    · exact ⟨[] :: ts, t, by rw [if_pos hd, List.cons_append]⟩
    · rw [if_neg hd]
      cases ts with
      | nil => exact ⟨[], d :: t, rfl⟩
      | cons u us => exact ⟨(d :: u) :: us, t, rfl⟩

theorem exists_join_append (sep : Text) (ts : List Text) (t : Text) (c : Char) :
    ∃ r, join sep (ts ++ [t ++ [c]]) = r ++ [c] := by
  induction ts with
  | nil => exact ⟨t, rfl⟩
  | cons u us ih =>
    obtain ⟨r, hr⟩ := ih
    refine ⟨u ++ sep ++ r, ?_⟩
    rw [List.append_assoc _ r, ← hr, List.cons_append]
    cases us with
    | nil => rfl
    | cons v vs => rfl

theorem exists_dropWhile_append {p : Char → Bool} {c : Char} (hc : p c = false) (s : Text) :
    ∃ r, (s ++ [c]).dropWhile p = r ++ [c] := by
  rw [List.dropWhile_append]
  split_ifs
  · exact ⟨[], by simp [hc]⟩
  · exact ⟨_, rfl⟩

end Text

namespace Address

/-- An address ends in the character in which its path ends, if that is neither a blank nor a slash. -/
theorem exists_ofPath_append {c : Char} (hblank : Text.isBlank c = false) (hslash : c ≠ '/')
    (p : Text) : ∃ r, ofPath (p ++ [c]) = r ++ [c] := by
  obtain ⟨q, hq⟩ : ∃ q, (Text.trim (p ++ [c])).dropWhile (· == '/') = q ++ [c] := by
    obtain ⟨r, hr⟩ := Text.exists_dropWhile_append hblank p
    have htrim : Text.trim (p ++ [c]) = r ++ [c] := by
      rw [Text.trim, Text.trimStart, hr, Text.trimEnd_eq_self_iff]
      intro d hd
      rw [List.getLast?_concat, Option.mem_some_iff] at hd
      exact hd ▸ hblank
    rw [htrim]
    exact Text.exists_dropWhile_append (by simpa using hslash) r
  obtain ⟨ts, t, hts⟩ := Text.exists_pieces_append (· == '/') q (c := c) (by simpa using hslash)
  obtain ⟨r, hr⟩ := Text.exists_join_append ['/'] (ts.filter fun step => !step.isEmpty) t c
  refine ⟨r, ?_⟩
  have hlast : (q ++ [c]).getLast? ≠ some '/' := by simpa using hslash
  have hne : (q ++ [c]).isEmpty = false := by simp
  rw [ofPath, hq, hts, hne, if_neg (by simp), if_neg hlast, List.append_nil, List.filter_append,
    ← hr]
  simp

theorem isFolder_ofPath_append {c : Char} (hblank : Text.isBlank c = false) (hslash : c ≠ '/')
    (p : Text) : isFolder (ofPath (p ++ [c])) = false := by
  obtain ⟨r, haddress⟩ := exists_ofPath_append hblank hslash p
  rw [haddress, isFolder, Text.endsIn, Bool.eq_false_iff]
  intro h
  obtain ⟨u, hu⟩ := Option.isSome_iff_exists.mp h
  have hsplit := Text.before?_eq_some_iff.mp hu
  exact hslash (by simpa using congrArg List.getLast? hsplit)

end Address

end NoteVault
