import NoteVault.Text.Basic

/-! Finite maps from texts, kept in ascending order of their keys. -/

namespace NoteVault

section Entries

variable {α : Type}

/-- Sets the entry of a key in an ascending list. -/
def setAscending (key : Text) (v : α) : List (Text × α) → List (Text × α)
  | [] => [(key, v)]
  | e :: es =>
    match Text.order key e.1 with
    | .lt => (key, v) :: e :: es
    | .eq => (key, v) :: es
    | .gt => e :: setAscending key v es

/-- Whether the keys of a list ascend strictly. -/
def Ascending (es : List (Text × α)) : Prop :=
  es.Pairwise fun a b => Text.order a.1 b.1 = .lt

theorem mem_setAscending {key : Text} {v : α} {es : List (Text × α)} {e : Text × α}
    (h : e ∈ setAscending key v es) : e = (key, v) ∨ e ∈ es := by
  induction es with
  | nil => exact Or.inl (List.mem_singleton.1 h)
  | cons d es ih =>
    unfold setAscending at h
    split at h
    · simpa using h
    · rcases List.mem_cons.1 h with h | h
      · exact Or.inl h
      · exact Or.inr (List.mem_cons_of_mem _ h)
    · rcases List.mem_cons.1 h with h | h
      · exact Or.inr (h ▸ List.mem_cons_self)
      · exact (ih h).imp_right (List.mem_cons_of_mem _)

theorem Ascending.setAscending {key : Text} {v : α} {es : List (Text × α)} (h : Ascending es) :
    Ascending (setAscending key v es) := by
  induction es with
  | nil => exact List.pairwise_singleton _ _
  | cons d es ih =>
    have hd := (List.pairwise_cons.1 h).1
    have ht := (List.pairwise_cons.1 h).2
    unfold NoteVault.setAscending
    split
    · next hlt =>
      refine List.pairwise_cons.2 ⟨?_, h⟩
      intro e he
      rcases List.mem_cons.1 he with he | he
      · exact he ▸ hlt
      · exact Text.order_trans hlt (hd e he)
    · next heq => exact List.pairwise_cons.2 ⟨fun e he => Text.eq_of_order_eq heq ▸ hd e he, ht⟩
    · next hgt =>
      refine List.pairwise_cons.2 ⟨?_, ih ht⟩
      intro e he
      rcases mem_setAscending he with he | he
      · rw [he, ← Text.order_swap, hgt]
        rfl
      · exact hd e he

theorem lookup_setAscending (key k : Text) (v : α) (es : List (Text × α)) :
    (setAscending key v es).lookup k = if k = key then some v else es.lookup k := by
  have lookup_cons (l : Text) (w : α) (fs : List (Text × α)) :
      ((l, w) :: fs).lookup k = if k = l then some w else fs.lookup k := by
    by_cases h : k = l
    · simp [h]
    · have hb : (k == l) = false := by simpa using h
      simp [List.lookup_cons, hb, h]
  induction es with
  | nil => simp [setAscending, lookup_cons]
  | cons e es ih =>
    obtain ⟨l, w⟩ := e
    unfold setAscending
    split
    · simp [lookup_cons]
    · next heq =>
      have hl : key = l := Text.eq_of_order_eq heq
      by_cases hk : k = key <;> simp [lookup_cons, ← hl, hk]
    · next hgt =>
      by_cases hk : k = key
      · subst hk
        have hl : k ≠ l := fun hl => by simp [hl, Text.order_self] at hgt
        simp [lookup_cons, hl, ih]
      · simp [lookup_cons, hk, ih]

end Entries

/-- A finite map from texts: its entries in ascending order of their keys. -/
structure Index (α : Type) where
  entries : List (Text × α)
  ascending : Ascending entries

namespace Index

variable {α : Type}

def empty : Index α := ⟨[], List.Pairwise.nil⟩

instance : Inhabited (Index α) := ⟨empty⟩

def get? (m : Index α) (key : Text) : Option α := m.entries.lookup key

def has (m : Index α) (key : Text) : Bool := (m.get? key).isSome

def insert (m : Index α) (key : Text) (v : α) : Index α :=
  ⟨setAscending key v m.entries, m.ascending.setAscending⟩

theorem get?_insert (m : Index α) (key k : Text) (v : α) :
    (m.insert key v).get? k = if k = key then some v else m.get? k :=
  lookup_setAscending key k v m.entries

def keys (m : Index α) : List Text := m.entries.map Prod.fst

def size (m : Index α) : Nat := m.entries.length

/-- The entries of a list; of two with one key the later one counts. -/
def ofList (es : List (Text × α)) : Index α := es.foldl (fun m e => m.insert e.1 e.2) empty

end Index

end NoteVault
