import Mathlib.Data.List.Nodup
import NoteVault.Index

/-! An index is the one that its own entries make, in whatever way they are put in. -/

namespace NoteVault

variable {α : Type}

theorem setAscending_of_forall_lt {key : Text} {es : List (Text × α)}
    (h : ∀ e ∈ es, Text.order e.1 key = .lt) (v : α) : setAscending key v es = es ++ [(key, v)] := by
  induction es with
  | nil => rfl
  | cons e es ih =>
    have hkey : Text.order key e.1 = .gt := by
      rw [← Text.order_swap, h e List.mem_cons_self]
      rfl
    rw [setAscending, hkey, List.cons_append]
    exact congrArg _ (ih fun d hd => h d (List.mem_cons_of_mem e hd))

theorem lookup_of_mem_ascending {es : List (Text × α)} (h : Ascending es) {e : Text × α}
    (he : e ∈ es) : es.lookup e.1 = some e.2 := by
  induction es with
  | nil => contradiction
  | cons d es ih =>
    have hd := (List.pairwise_cons.mp h).1
    obtain ⟨key, v⟩ := d
    rcases List.mem_cons.mp he with rfl | hes
    · simp
    · have hne : e.1 ≠ key := by
        rintro rfl
        have hlt := hd e hes
        simp [Text.order_self] at hlt
      have hrest := ih (List.pairwise_cons.mp h).2 hes
      rw [List.lookup_cons, beq_eq_false_iff_ne.mpr hne]
      exact hrest

namespace Index

theorem ext_entries {m n : Index α} (h : m.entries = n.entries) : m = n := by
  cases m
  cases n
  cases h
  rfl

theorem mem_insert {m : Index α} {key : Text} {v : α} {e : Text × α}
    (h : e ∈ (m.insert key v).entries) : e = (key, v) ∨ e ∈ m.entries := mem_setAscending h

theorem mem_of_get? {m : Index α} {key : Text} {v : α} (h : m.get? key = some v) :
    (key, v) ∈ m.entries := by
  obtain ⟨l₁, l₂, hentries, -⟩ := List.lookup_eq_some_iff.mp h
  rw [hentries]
  exact List.mem_append_right _ List.mem_cons_self

theorem mem_iff_get? {m : Index α} {key : Text} {v : α} :
    (key, v) ∈ m.entries ↔ m.get? key = some v :=
  ⟨fun h => lookup_of_mem_ascending m.ascending h, mem_of_get?⟩

/-- An index is determined by its look-ups. -/
theorem ext_get? {m n : Index α} (h : ∀ key, m.get? key = n.get? key) : m = n := by
  have hnodup : ∀ i : Index α, i.entries.Nodup := by
    intro i
    apply i.ascending.imp
    rintro a b hab rfl
    simp [Text.order_self] at hab
  have hperm : m.entries.Perm n.entries := by
    rw [List.perm_ext_iff_of_nodup (hnodup m) (hnodup n)]
    rintro ⟨key, v⟩
    rw [mem_iff_get?, mem_iff_get?, h]
  apply ext_entries
  apply hperm.eq_of_pairwise _ m.ascending n.ascending
  intro a b _ _ hab hba
  have hloop := Text.order_trans hab hba
  simp [Text.order_self] at hloop

theorem insert_comm (m : Index α) {k l : Text} (h : k ≠ l) (v w : α) :
    (m.insert k v).insert l w = (m.insert l w).insert k v := by
  apply ext_get?
  intro key
  simp only [get?_insert]
  by_cases hk : key = k
  · have hl : key ≠ l := hk ▸ h
    simp [hk, h]
  · simp [hk]

theorem mem_keys_iff {m : Index α} {key : Text} : key ∈ m.keys ↔ ∃ v, m.get? key = some v := by
  simp only [keys, List.mem_map, ← mem_iff_get?]
  constructor
  · rintro ⟨e, he, rfl⟩
    exact ⟨e.2, he⟩
  · rintro ⟨v, hv⟩
    exact ⟨(key, v), hv, rfl⟩

theorem mem_keys_insert {m : Index α} {k key : Text} {v : α} :
    key ∈ (m.insert k v).keys ↔ key = k ∨ key ∈ m.keys := by
  simp only [mem_keys_iff, get?_insert]
  by_cases hk : key = k <;> simp [hk]

theorem mem_ofList {es : List (Text × α)} {e : Text × α} (h : e ∈ (ofList es).entries) : e ∈ es := by
  have hfold : ∀ m : Index α, e ∈ (es.foldl (fun m e => m.insert e.1 e.2) m).entries →
      e ∈ m.entries ∨ e ∈ es := by
    clear h
    induction es with
    | nil => exact fun _ h => .inl h
    | cons d es ih =>
      intro m h
      rcases ih _ h with h | h
      · rcases mem_insert h with rfl | h
        · exact .inr List.mem_cons_self
        · exact .inl h
      · exact .inr (List.mem_cons_of_mem d h)
  exact (hfold empty h).resolve_left List.not_mem_nil

theorem ofList_entries (m : Index α) : ofList m.entries = m := by
  have hfold : ∀ (es : List (Text × α)) (n : Index α), Ascending (n.entries ++ es) →
      (es.foldl (fun m e => m.insert e.1 e.2) n).entries = n.entries ++ es := by
    intro es
    induction es with
    | nil => exact fun n _ => (List.append_nil _).symm
    | cons e es ih =>
      intro n h
      have hinsert : (n.insert e.1 e.2).entries = n.entries ++ [e] :=
        setAscending_of_forall_lt
          (fun d hd => (List.pairwise_append.mp h).2.2 d hd e List.mem_cons_self) e.2
      have happend : n.entries ++ e :: es = (n.insert e.1 e.2).entries ++ es := by
        rw [hinsert, List.append_assoc, List.singleton_append]
      rw [happend] at h ⊢
      exact ih _ h
  exact ext_entries (hfold m.entries empty m.ascending)

end Index

end NoteVault
