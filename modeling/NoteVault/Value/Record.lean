import NoteVault.Text.Basic

/-!
Records: named entries in order of insertion. A new name goes to the end, a known one keeps its
place, and the last entry fills the place of a removed one.
-/

namespace NoteVault

section Entries

variable {α : Type}

/-- Sets the entry of a name: in its place, or at the end. -/
def setEntry (name : Text) (v : α) : List (Text × α) → List (Text × α)
  | [] => [(name, v)]
  | e :: es => if e.1 = name then (name, v) :: es else e :: setEntry name v es

/-- Removes the entry of a name and puts the last entry into its place. -/
def removeEntry (name : Text) : List (Text × α) → List (Text × α)
  | [] => []
  | e :: es =>
    if e.1 = name then
      match es.getLast? with
      | none => []
      | some last => last :: es.dropLast
    else e :: removeEntry name es

theorem lookup_cons_eq_ite (key name : Text) (v : α) (es : List (Text × α)) :
    ((name, v) :: es).lookup key = if key = name then some v else es.lookup key := by
  by_cases h : key = name
  · simp [h]
  · have hb : (key == name) = false := by simpa using h
    simp [List.lookup_cons, hb, h]

theorem lookup_setEntry (name key : Text) (v : α) (es : List (Text × α)) :
    (setEntry name v es).lookup key = if key = name then some v else es.lookup key := by
  induction es with
  | nil => simp [setEntry, lookup_cons_eq_ite]
  | cons e es ih =>
    obtain ⟨n, w⟩ := e
    unfold setEntry
    by_cases h : n = name
    · subst h
      by_cases hk : key = n <;> simp [lookup_cons_eq_ite, hk]
    · by_cases hk : key = n
      · subst hk
        simp [h]
      · simp [h, hk, lookup_cons_eq_ite, ih]

theorem names_setEntry (name : Text) (v : α) (es : List (Text × α)) :
    (setEntry name v es).map Prod.fst =
      if name ∈ es.map Prod.fst then es.map Prod.fst else es.map Prod.fst ++ [name] := by
  induction es with
  | nil => simp [setEntry]
  | cons e es ih =>
    unfold setEntry
    by_cases h : e.1 = name
    · simp [h]
    · have h' : ¬ name = e.1 := fun hn => h hn.symm
      simp only [h, if_false, List.map_cons, ih, List.mem_cons, h', false_or]
      split <;> simp

theorem nodup_setEntry {name : Text} {v : α} {es : List (Text × α)}
    (h : (es.map Prod.fst).Nodup) : ((setEntry name v es).map Prod.fst).Nodup := by
  rw [names_setEntry]
  split
  · exact h
  · next hn =>
    rw [List.nodup_append]
    refine ⟨h, by simp, ?_⟩
    rintro a ha b hb rfl
    rw [List.mem_singleton.1 hb] at ha
    exact hn ha

theorem removeEntry_perm (name : Text) (es : List (Text × α)) :
    (removeEntry name es).Perm (es.eraseP (·.1 = name)) := by
  induction es with
  | nil => simp [removeEntry]
  | cons e es ih =>
    unfold removeEntry
    by_cases h : e.1 = name
    · simp only [h, if_true, List.eraseP_cons, decide_true, cond_true]
      split
      · next hn => simp [List.getLast?_eq_none_iff.1 hn]
      · next last hl =>
        obtain ⟨ys, rfl⟩ := List.getLast?_eq_some_iff.1 hl
        simpa using (List.perm_append_comm : ([last] ++ ys).Perm (ys ++ [last]))
    · simpa [h, List.eraseP_cons] using ih

theorem nodup_removeEntry {name : Text} {es : List (Text × α)}
    (h : (es.map Prod.fst).Nodup) : ((removeEntry name es).map Prod.fst).Nodup :=
  ((removeEntry_perm name es).map Prod.fst).nodup_iff.2
    (h.sublist (List.eraseP_sublist.map Prod.fst))

end Entries

/-- Named entries in order of insertion, no two of one name. -/
structure Record (α : Type) where
  entries : List (Text × α)
  nodup : (entries.map Prod.fst).Nodup
  deriving Repr

namespace Record

variable {α : Type}

def empty : Record α := ⟨[], List.nodup_nil⟩

instance : Inhabited (Record α) := ⟨empty⟩

def isEmpty (r : Record α) : Bool := r.entries.isEmpty

def names (r : Record α) : List Text := r.entries.map Prod.fst

def get? (r : Record α) (name : Text) : Option α := r.entries.lookup name

def has (r : Record α) (name : Text) : Bool := (r.get? name).isSome

def insert (r : Record α) (name : Text) (v : α) : Record α :=
  ⟨setEntry name v r.entries, nodup_setEntry r.nodup⟩

def erase (r : Record α) (name : Text) : Record α :=
  ⟨removeEntry name r.entries, nodup_removeEntry r.nodup⟩

/-- The entries of a list, inserted one after the other. -/
def ofList (es : List (Text × α)) : Record α := es.foldl (fun r e => r.insert e.1 e.2) empty

theorem get?_insert (r : Record α) (name key : Text) (v : α) :
    (r.insert name v).get? key = if key = name then some v else r.get? key :=
  lookup_setEntry name key v r.entries

theorem names_insert (r : Record α) (name : Text) (v : α) :
    (r.insert name v).names = if name ∈ r.names then r.names else r.names ++ [name] :=
  names_setEntry name v r.entries

end Record

end NoteVault
