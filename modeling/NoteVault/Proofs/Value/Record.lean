import Mathlib.Tactic.SplitIfs
import NoteVault.Value.Record

/-! What a look-up in a record finds, also after an entry is removed. Entries with new names go to the
end of a record, so that a record is what inserting its own entries makes. -/

namespace NoteVault

/-- Whether a name is none of some names. -/
def isNoneOf (names : List Text) (name : Text) : Bool := !names.contains name

@[simp]
theorem isNoneOf_iff {names : List Text} {name : Text} :
    isNoneOf names name = true ↔ name ∉ names := by
  simp [isNoneOf]

theorem isNoneOf_perm {keys names : List Text} (h : keys.Perm names) :
    isNoneOf keys = isNoneOf names :=
  funext fun name => by
    rw [Bool.eq_iff_iff, isNoneOf_iff, isNoneOf_iff, h.mem_iff]

section Names

variable {σ ε : Type} {name : ε → Text} {step : σ → ε → σ}

/-- Steps that add a name behind the others unless it is there already. -/
theorem names_foldl (names : σ → List Text) (hstep : ∀ s e, names (step s e) =
      if name e ∈ names s then names s else names s ++ [name e])
    {es : List ε} (h : (es.map name).Nodup) (s : σ) :
    names (es.foldl step s) = names s ++ (es.map name).filter (isNoneOf (names s)) := by
  induction es generalizing s with
  | nil => simp
  | cons e es ih =>
    obtain ⟨he, hes⟩ := List.nodup_cons.mp h
    rw [List.foldl_cons, ih hes (step s e), hstep, List.map_cons, List.filter_cons]
    by_cases hmem : name e ∈ names s
    · simp [hmem]
    · rw [if_neg hmem, if_pos (isNoneOf_iff.mpr hmem), List.append_assoc, List.singleton_append]
      congr 2
      refine List.filter_congr fun n hn => ?_
      have hne : n ≠ name e := fun heq => he (heq ▸ hn)
      simp [isNoneOf, hne]

end Names

section Entries

variable {α : Type} {es : List (Text × α)} {name key : Text} {v : α}

theorem setEntry_of_not_mem (h : name ∉ es.map Prod.fst) (v : α) :
    setEntry name v es = es ++ [(name, v)] := by
  induction es with
  | nil => rfl
  | cons e es ih =>
    rw [List.map_cons, List.mem_cons, not_or] at h
    rw [setEntry, if_neg (Ne.symm h.1), ih h.2, List.cons_append]

theorem mem_setEntry {e : Text × α} (h : e ∈ setEntry name v es) : e = (name, v) ∨ e ∈ es := by
  induction es with
  | nil => exact .inl (List.mem_singleton.mp h)
  | cons d es ih =>
    unfold setEntry at h
    split_ifs at h
    · exact (List.mem_cons.mp h).imp_right (List.mem_cons_of_mem d)
    · rcases List.mem_cons.mp h with rfl | he
      · exact .inr List.mem_cons_self
      · exact (ih he).imp_right (List.mem_cons_of_mem d)

theorem removeEntry_of_not_mem (h : name ∉ es.map Prod.fst) : removeEntry name es = es := by
  induction es with
  | nil => rfl
  | cons e es ih =>
    rw [List.map_cons, List.mem_cons, not_or] at h
    rw [removeEntry, if_neg (Ne.symm h.1), ih h.2]

theorem lookup_eq_none_of_not_mem (h : key ∉ es.map Prod.fst) : es.lookup key = none := by
  rw [List.lookup_eq_none_iff]
  intro e he
  rw [bne_iff_ne]
  rintro rfl
  exact h (List.mem_map_of_mem he)

theorem lookup_eq_some_iff_mem (h : (es.map Prod.fst).Nodup) :
    es.lookup key = some v ↔ (key, v) ∈ es := by
  induction es with
  | nil => simp
  | cons e es ih =>
    obtain ⟨l, w⟩ := e
    obtain ⟨hl, hes⟩ := List.nodup_cons.mp h
    rw [lookup_cons_eq_ite, List.mem_cons]
    by_cases hkey : key = l
    · subst hkey
      have hnot : (key, v) ∉ es := fun hmem => hl (List.mem_map.mpr ⟨_, hmem, rfl⟩)
      simp [hnot, eq_comm]
    · simp [hkey, ih hes]

theorem mem_removeEntry (h : (es.map Prod.fst).Nodup) {e : Text × α} :
    e ∈ removeEntry name es ↔ e.1 ≠ name ∧ e ∈ es := by
  rw [(removeEntry_perm name es).mem_iff]
  induction es with
  | nil => simp
  | cons d es ih =>
    obtain ⟨hd, hes⟩ := List.nodup_cons.mp h
    by_cases hname : d.1 = name
    · rw [List.eraseP_cons_of_pos (by simpa using hname), List.mem_cons]
      constructor
      · intro he
        refine ⟨?_, .inr he⟩
        rintro rfl
        exact hd (hname ▸ List.mem_map_of_mem he)
      · rintro ⟨hne, rfl | he⟩
        · exact absurd hname hne
        · exact he
    · rw [List.eraseP_cons_of_neg (by simpa using hname), List.mem_cons, List.mem_cons, ih hes]
      constructor
      · rintro (rfl | ⟨hne, he⟩)
        · exact ⟨hname, .inl rfl⟩
        · exact ⟨hne, .inr he⟩
      · rintro ⟨hne, rfl | he⟩
        · exact .inl rfl
        · exact .inr ⟨hne, he⟩

end Entries

namespace Record

variable {α : Type}

theorem ext_entries {r s : Record α} (h : r.entries = s.entries) : r = s := by
  cases r
  cases s
  cases h
  rfl

theorem get?_eq_some_iff {r : Record α} {key : Text} {v : α} :
    r.get? key = some v ↔ (key, v) ∈ r.entries := lookup_eq_some_iff_mem r.nodup

theorem get?_erase (r : Record α) (name key : Text) :
    (r.erase name).get? key = if key = name then none else r.get? key := by
  ext v
  rw [get?_eq_some_iff]
  have hmem : (key, v) ∈ (r.erase name).entries ↔ key ≠ name ∧ (key, v) ∈ r.entries :=
    mem_removeEntry r.nodup
  rw [hmem]
  split_ifs with h
  · simp [h]
  · rw [get?_eq_some_iff, and_iff_right h]

theorem erase_of_not_mem {r : Record α} {name : Text} (h : name ∉ r.names) : r.erase name = r :=
  ext_entries (removeEntry_of_not_mem h)

theorem entries_foldl_insert {es : List (Text × α)} {r : Record α}
    (h : ((r.entries ++ es).map Prod.fst).Nodup) :
    (es.foldl (fun r e => r.insert e.1 e.2) r).entries = r.entries ++ es := by
  induction es generalizing r with
  | nil => exact (List.append_nil _).symm
  | cons e es ih =>
    have hnot : e.1 ∉ r.entries.map Prod.fst := by
      rw [List.map_append, List.map_cons] at h
      exact fun hmem => (List.nodup_append.mp h).2.2 e.1 hmem e.1 List.mem_cons_self rfl
    have hinsert : (r.insert e.1 e.2).entries = r.entries ++ [e] := setEntry_of_not_mem hnot e.2
    have happend : r.entries ++ e :: es = (r.insert e.1 e.2).entries ++ es := by
      rw [hinsert, List.append_assoc, List.singleton_append]
    rw [happend] at h ⊢
    exact ih h

theorem names_insertAll {es : List (Text × α)} (h : (es.map Prod.fst).Nodup) (r : Record α) :
    (es.foldl (fun r e => r.insert e.1 e.2) r).names =
      r.names ++ (es.map Prod.fst).filter (isNoneOf r.names) :=
  names_foldl names (fun r e => names_insert r e.1 e.2) h r

theorem mem_entries_foldl_insert {es : List (Text × α)} {r : Record α} {e : Text × α}
    (h : e ∈ (es.foldl (fun r e => r.insert e.1 e.2) r).entries) : e ∈ r.entries ∨ e ∈ es := by
  induction es generalizing r with
  | nil => exact .inl h
  | cons d es ih =>
    rcases ih h with hinsert | hes
    · rcases mem_setEntry hinsert with rfl | hold
      · exact .inr List.mem_cons_self
      · exact .inl hold
    · exact .inr (List.mem_cons_of_mem d hes)

theorem mem_of_mem_entries_ofList {es : List (Text × α)} {e : Text × α}
    (h : e ∈ (ofList es).entries) : e ∈ es :=
  (mem_entries_foldl_insert h).resolve_left List.not_mem_nil

theorem entries_ofList {es : List (Text × α)} (h : (es.map Prod.fst).Nodup) :
    (ofList es).entries = es := by
  have hempty : (((empty : Record α).entries ++ es).map Prod.fst).Nodup := h
  exact entries_foldl_insert hempty

section Table

variable {β : Type} {xs : List β} {f : β → Text}

theorem names_ofList_map (h : (xs.map f).Nodup) (g : β → α) :
    (ofList (xs.map fun x => (f x, g x))).names = xs.map f := by
  have hmap : (xs.map fun x => (f x, g x)).map Prod.fst = xs.map f := List.map_map
  rw [names, entries_ofList (hmap ▸ h), hmap]

theorem get?_ofList_map (h : (xs.map f).Nodup) (g : β → α) {x : β} (hx : x ∈ xs) :
    (ofList (xs.map fun x => (f x, g x))).get? (f x) = some (g x) := by
  have hmap : (xs.map fun x => (f x, g x)).map Prod.fst = xs.map f := List.map_map
  rw [get?_eq_some_iff, entries_ofList (hmap ▸ h)]
  exact List.mem_map_of_mem hx

end Table

theorem ofList_entries (r : Record α) : ofList r.entries = r :=
  ext_entries (entries_foldl_insert r.nodup)

end Record

end NoteVault
