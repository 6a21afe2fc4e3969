import NoteVault.Proofs.Repeats
import NoteVault.Query.Warnings

/-! What is reported of some warnings: the first different ones in the order in which they were added, and
a notice that counts the others. -/

namespace NoteVault.Warnings

variable {w : Warnings} {ts : List Text} {t : Text}

/-- Whether warnings are what remains of some texts: the first different ones are kept up to the cap, the
other ones are counted, and each text is seen. -/
structure Tracks (w : Warnings) (ts : List Text) : Prop where
  seen : ∀ t, t ∈ w.seen ↔ t ∈ ts
  kept : w.kept = ts.eraseDups.take w.cap
  dropped : w.dropped = ts.eraseDups.length - w.cap

@[simp] theorem cap_add (w : Warnings) (t : Text) : (w.add t).cap = w.cap := by
  unfold add
  split
  · rfl
  · split <;> rfl

theorem add_of_seen (h : t ∈ w.seen) : w.add t = w := by
  rw [add, if_pos (List.contains_iff_mem.mpr h)]

theorem mem_seen_add_of_not_seen (h : t ∉ w.seen) (u : Text) :
    u ∈ (w.add t).seen ↔ u = t ∨ u ∈ w.seen := by
  rw [add, if_neg (mt List.contains_iff_mem.mp h)]
  split <;> exact List.mem_cons

theorem add_of_full (h : t ∉ w.seen) (hfull : w.cap ≤ w.kept.length) :
    (w.add t).kept = w.kept ∧ (w.add t).dropped = w.dropped + 1 := by
  rw [add, if_neg (mt List.contains_iff_mem.mp h), if_pos hfull]
  exact ⟨rfl, rfl⟩

theorem add_of_room (h : t ∉ w.seen) (hroom : w.kept.length < w.cap) :
    (w.add t).kept = w.kept ++ [t] ∧ (w.add t).dropped = w.dropped := by
  rw [add, if_neg (mt List.contains_iff_mem.mp h), if_neg (Nat.not_le.mpr hroom)]
  exact ⟨rfl, rfl⟩

theorem Tracks.add (h : w.Tracks ts) (t : Text) : (w.add t).Tracks (ts ++ [t]) := by
  have hlength : w.kept.length = min w.cap ts.eraseDups.length := by rw [h.kept, List.length_take]
  have hdropped := h.dropped
  by_cases hold : t ∈ ts
  · rw [add_of_seen ((h.seen t).mpr hold)]
    refine ⟨fun u => ?_, ?_, ?_⟩
    · rw [h.seen, List.mem_append, List.mem_singleton]
      exact ⟨.inl, fun hu => hu.elim id fun hut => hut ▸ hold⟩
    · rw [eraseDups_concat, if_pos hold, h.kept]
    · rw [eraseDups_concat, if_pos hold, hdropped]
  · have hnew : t ∉ w.seen := mt (h.seen t).mp hold
    have hdups : (ts ++ [t]).eraseDups = ts.eraseDups ++ [t] := by rw [eraseDups_concat, if_neg hold]
    have hcount : (ts ++ [t]).eraseDups.length = ts.eraseDups.length + 1 := by
      rw [hdups, List.length_append, List.length_singleton]
    have hseen : ∀ u, u ∈ (w.add t).seen ↔ u ∈ ts ++ [t] := by
      intro u
      rw [mem_seen_add_of_not_seen hnew, h.seen, List.mem_append, List.mem_singleton, or_comm]
    -- Below the cap all different texts so far are kept, and `take` takes the whole list.
    by_cases hfull : w.cap ≤ w.kept.length
    · obtain ⟨hkept, hadded⟩ := add_of_full hnew hfull
      refine ⟨hseen, ?_, ?_⟩
      · rw [hkept, h.kept, cap_add, hdups, List.take_append_of_le_length (by omega)]
      · rw [hadded, cap_add, hcount]
        omega
    · obtain ⟨hkept, hadded⟩ := add_of_room hnew (by omega)
      refine ⟨hseen, ?_, ?_⟩
      · rw [hkept, h.kept, cap_add, List.take_of_length_le (by omega), ← hdups,
          List.take_of_length_le (by omega)]
      · rw [hadded, cap_add, hcount]
        omega

theorem Tracks.foldl (h : w.Tracks ts) (us : List Text) : (us.foldl Warnings.add w).Tracks (ts ++ us) := by
  induction us generalizing w ts with
  | nil => simpa using h
  | cons t us ih => simpa using ih (h.add t)

theorem cap_foldl (w : Warnings) (us : List Text) : (us.foldl Warnings.add w).cap = w.cap := by
  induction us generalizing w with
  | nil => rfl
  | cons t us ih => rw [List.foldl_cons, ih, cap_add]

theorem tracks_foldl (cap : Nat) (ts : List Text) :
    (ts.foldl Warnings.add { cap := cap }).Tracks ts := by
  have hnone : ({ cap := cap } : Warnings).Tracks [] := by
    refine ⟨fun t => Iff.rfl, ?_, ?_⟩
    · exact List.take_nil.symm
    · exact (Nat.zero_sub cap).symm
  simpa using hnone.foldl ts

/-- The different texts are reported once, in the order of their first addition, as many as the cap
allows. If there are more, a notice at the end tells how many. -/
theorem report_eq (cap : Nat) (ts : List Text) :
    report cap ts = ts.eraseDups.take cap ++
      if cap < ts.eraseDups.length then [notice (ts.eraseDups.length - cap) cap] else [] := by
  have htracks := tracks_foldl cap ts
  have hcap : (ts.foldl Warnings.add { cap := cap }).cap = cap := cap_foldl _ ts
  have hkept := htracks.kept
  have hdropped := htracks.dropped
  rw [hcap] at hkept hdropped
  rw [report, finish, hkept, hdropped, hcap]
  by_cases hmore : cap < ts.eraseDups.length
  · rw [if_neg (by omega), if_pos hmore]
  · rw [if_pos (by omega), if_neg hmore, List.append_nil]

example : report 2 (["a", "a", "b", "c", "b", "d", "c"].map String.toList) =
    ["a", "b", "Warnings truncated: 2 more not shown (cap 2)."].map String.toList := by decide

end NoteVault.Warnings
