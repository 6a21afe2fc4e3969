import NoteVault.Value.Decode

/-! Fields that are written under different names are read back one by one. -/

namespace NoteVault

section Each

variable {α β γ : Type}

theorem mapM_map_eq_some {f : β → Option γ} {g : α → β} {k : α → γ} {l : List α}
    (h : ∀ a ∈ l, f (g a) = some (k a)) : (l.map g).mapM f = some (l.map k) := by
  induction l with
  | nil => rfl
  | cons a l ih =>
    have hl := ih fun b hb => h b (List.mem_cons_of_mem a hb)
    rw [List.map_cons, List.mapM_cons, h a List.mem_cons_self, hl]
    rfl

theorem mem_of_mapM_eq_some {f : α → Option β} {l : List α} {r : List β} (h : l.mapM f = some r)
    {b : β} (hb : b ∈ r) : ∃ a ∈ l, f a = some b := by
  induction l generalizing r with
  | nil =>
    obtain rfl := Option.some.inj h
    contradiction
  | cons a l ih =>
    rw [List.mapM_cons] at h
    obtain ⟨c, hc, h⟩ := Option.bind_eq_some_iff.mp h
    obtain ⟨cs, hcs, h⟩ := Option.bind_eq_some_iff.mp h
    obtain rfl := Option.some.inj h
    rcases List.mem_cons.mp hb with rfl | hb
    · exact ⟨a, List.mem_cons_self, hc⟩
    · obtain ⟨d, hd, hdb⟩ := ih hcs hb
      exact ⟨d, List.mem_cons_of_mem a hd, hdb⟩

end Each

namespace Decode

variable {α : Type} {names : List Text} {read : Value → Option α} {write : α → Value}
  {fs : Fields} {name : Text} {slots : List (Text × Option Value)}

/-- The fields that are written for names with values that may be absent. -/
def ofSlots (slots : List (Text × Option Value)) : Fields :=
  slots.flatMap fun s => writeOptional s.1 s.2

theorem filter_writeOptional (name key : Text) (v : Option Value) :
    ((writeOptional key v).filter fun f => [name].contains f.1) =
      if key = name then writeOptional key v else [] := by
  cases v with
  | none => split <;> rfl
  | some v => by_cases h : key = name <;> simp [writeOptional, h]

theorem filter_ofSlots (name : Text) (slots : List (Text × Option Value)) :
    ((ofSlots slots).filter fun f => [name].contains f.1) =
      slots.flatMap fun s => if s.1 = name then writeOptional s.1 s.2 else [] := by
  rw [ofSlots, List.filter_flatMap]
  congr 1
  funext s
  exact filter_writeOptional name s.1 s.2

theorem filter_ofSlots_of_mem {v : Option Value} (hnodup : (slots.map Prod.fst).Nodup)
    (hmem : (name, v) ∈ slots) :
    ((ofSlots slots).filter fun f => [name].contains f.1) = writeOptional name v := by
  rw [filter_ofSlots]
  induction slots with
  | nil => contradiction
  | cons s slots ih =>
    obtain ⟨hnot, hnodup⟩ := List.nodup_cons.mp hnodup
    rw [List.flatMap_cons]
    rcases List.mem_cons.mp hmem with rfl | hmem
    · have hrest : (slots.flatMap fun s => if s.1 = name then writeOptional s.1 s.2 else []) = [] := by
        apply List.flatMap_eq_nil_iff.mpr
        intro s hs
        exact if_neg fun hname => hnot (List.mem_map.mpr ⟨s, hs, hname⟩)
      rw [if_pos rfl, hrest, List.append_nil]
    · have hne : s.1 ≠ name := fun hname => hnot (List.mem_map.mpr ⟨_, hmem, hname.symm⟩)
      rw [if_neg hne, List.nil_append, ih hnodup hmem]

/-- A name that is written once is found with its value. -/
theorem find?_ofSlots {v : Option Value} (hnodup : (slots.map Prod.fst).Nodup)
    (hmem : (name, v) ∈ slots) : find? [name] (ofSlots slots) = some v := by
  rw [find?, filter_ofSlots_of_mem hnodup hmem]
  cases v with
  | none => rfl
  | some v => rfl

theorem required_of_find? {v : Value} (h : find? names fs = some (some v)) :
    required names read fs = read v := by
  rw [required, h]

theorem withDefault_of_find? {v : Value} {default : α} (h : find? names fs = some (some v)) :
    withDefault names default read fs = read v := by
  rw [withDefault, h]

theorem optional_of_find? {x : Option α} (h : find? names fs = some (x.map write))
    (hread : ∀ a, x = some a → (write a).isNull = false ∧ read (write a) = some a) :
    optional names read fs = some x := by
  rw [optional, withDefault, h]
  cases x with
  | none => rfl
  | some a =>
    obtain ⟨hnull, hread⟩ := hread a rfl
    rw [Option.map_some]
    simp [nullable, hnull, hread]

theorem list?_map {items : List α} (h : ∀ a ∈ items, read (write a) = some a) :
    list? read (.list (items.map write)) = some items := by
  rw [list?, mapM_map_eq_some h, List.map_id']

theorem nat?_int {n : Nat} (h : isUnsigned64 n = true) : nat? (.int n) = some n := by
  rw [Value.int, nat?, if_pos h, Int.toNat_natCast]

theorem isUnsigned64_of_nat? {v : Value} {n : Nat} (h : nat? v = some n) :
    isUnsigned64 n = true := by
  unfold nat? at h
  split at h
  · next i =>
    split at h
    · next hfits =>
      obtain rfl := Option.some.inj h
      have hle : 0 ≤ i := by
        rw [isUnsigned64, Bool.and_eq_true, decide_eq_true_eq] at hfits
        exact hfits.1
      rwa [Int.toNat_of_nonneg hle]
    · contradiction
  · contradiction

end Decode

end NoteVault
