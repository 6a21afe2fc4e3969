import NoteVault.Text.Quoted

/-!
Connectives of statements, and the splitting at them: at the symbol, or at the word between blanks,
but not inside quotes.
-/

namespace NoteVault

/-- A connective: its symbol and the word for it. -/
structure Connective where
  symbol : Text
  word : Text
  symbol_ne_nil : symbol ≠ [] := by decide

namespace Connective

def disjunction : Connective := { symbol := "||", word := "or" }

def conjunction : Connective := { symbol := "&&", word := "and" }

/-- The rest of a text behind a word, in any case of its letters. -/
def afterWord? : Text → Text → Option Text
  | [], s => some s
  | _ :: _, [] => none
  | a :: word, c :: s => if a.toLower = c.toLower then afterWord? word s else none

/-- The rest behind a word between blanks, if something follows. -/
def afterSpacedWord? (word s : Text) : Option Text :=
  match afterWord? word (Text.trimStart s) with
  | some (c :: r) =>
    if Text.isBlank c && !(Text.trimStart r).isEmpty then some (Text.trimStart r) else none
  | _ => none

/-- The rest behind a connective at the beginning of a text. -/
def after? (k : Connective) (s : Text) : Option Text :=
  match Text.after? k.symbol s with
  | some r => some r
  | none => if (s.head?.map Text.isBlank).getD false then afterSpacedWord? k.word s else none

theorem length_afterWord? {word s r : Text} (h : afterWord? word s = some r) :
    s.length = word.length + r.length := by
  induction word generalizing s with
  | nil => simp_all [afterWord?]
  | cons a word ih =>
    cases s with
    | nil => simp [afterWord?] at h
    | cons c s =>
      by_cases hc : a.toLower = c.toLower
      · simp only [afterWord?, hc, if_true] at h
        simp only [List.length_cons, ih h]
        omega
      · simp [afterWord?, hc] at h

theorem length_after? {k : Connective} {s r : Text} (h : k.after? s = some r) :
    r.length < s.length := by
  unfold after? at h
  split at h
  · next q hq =>
    have hs := Text.after?_eq_some_iff.1 hq
    have hk := List.length_pos_iff.2 k.symbol_ne_nil
    rw [← Option.some.inj h, hs, List.length_append]
    omega
  · split at h
    · unfold afterSpacedWord? at h
      split at h
      · next c q hq =>
        split at h
        · have h1 := length_afterWord? hq
          have h2 := Text.length_trimStart_le s
          have h3 := Text.length_trimStart_le q
          rw [← Option.some.inj h]
          simp only [List.length_cons] at h1
          omega
        · simp at h
      · simp at h
    · simp at h

/-- The pieces of a text between the places where a connective stands, as they are; `quote` is the
quote that is open at the beginning. -/
def pieces (k : Connective) (quote : Option Char) : Text → List Text
  | [] => [[]]
  | c :: s =>
    match quote with
    | some q => Text.consHead c (pieces k (if c = q then none else some q) s)
    | none =>
      if Text.isQuote c then Text.consHead c (pieces k (some c) s)
      else match _h : k.after? (c :: s) with
        | some rest => [] :: pieces k none rest
        | none => Text.consHead c (pieces k none s)
termination_by s => s.length
decreasing_by
  all_goals first
    | exact length_after? _h
    | simp

theorem length_consHead_add_le {c : Char} {ts : List Text} {n : Nat}
    (h : ∀ t ∈ ts, t.length + ts.length ≤ n + 1) :
    ∀ t ∈ Text.consHead c ts, t.length + (Text.consHead c ts).length ≤ n + 2 := by
  cases ts with
  | nil => simp [Text.consHead]
  | cons u ts =>
    intro t ht
    have hu := h u List.mem_cons_self
    rcases List.mem_cons.1 ht with rfl | ht
    · simp [Text.consHead] at hu ⊢
      omega
    · have := h t (List.mem_cons_of_mem _ ht)
      simp [Text.consHead] at this ⊢
      omega

theorem pieces_ne_nil (k : Connective) (quote : Option Char) (s : Text) :
    pieces k quote s ≠ [] := by
  have hc (c : Char) (ts : List Text) : Text.consHead c ts ≠ [] := by
    cases ts <;> simp [Text.consHead]
  unfold pieces
  split
  · simp
  · split
    · exact hc _ _
    · split
      · exact hc _ _
      · split
        · simp
        · exact hc _ _

/-- A piece has at most the length of the text, less one for each other piece. -/
theorem length_add_length_pieces_le (k : Connective) (quote : Option Char) (s : Text) :
    ∀ t ∈ pieces k quote s, t.length + (pieces k quote s).length ≤ s.length + 1 := by
  fun_induction pieces k quote s with
  | case1 => simp
  | case2 c s q ih => exact length_consHead_add_le ih
  | case3 c s hq ih => exact length_consHead_add_le ih
  | case4 c s hq rest h ih =>
    have hlt := length_after? h
    intro t ht
    rcases List.mem_cons.1 ht with rfl | ht
    · obtain ⟨u, hu⟩ := List.exists_mem_of_ne_nil _ (pieces_ne_nil k none rest)
      have := ih u hu
      simp at hlt ⊢
      omega
    · have := ih t ht
      simp at hlt ⊢
      omega
  | case5 c s hq h ih => exact length_consHead_add_le ih

/-- The trimmed pieces of a text between the places where a connective stands. -/
def split (k : Connective) (s : Text) : List Text := (pieces k none s).map Text.trim

theorem length_le_of_mem_split {k : Connective} {s t : Text} (h : t ∈ k.split s) :
    t.length + (k.split s).length ≤ s.length + 1 := by
  obtain ⟨u, hu, rfl⟩ := List.mem_map.1 h
  have := length_add_length_pieces_le k none s u hu
  have := Text.length_trim_le u
  simp only [split, List.length_map]
  omega

end Connective

end NoteVault
