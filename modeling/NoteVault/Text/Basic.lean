/-! Text: order, affixes, splitting, searching. -/

namespace NoteVault

/-- Text is the list of its characters, so that a scan is a recursion on the data. -/
abbrev Text := List Char

instance : Coe String Text := ⟨String.toList⟩

namespace Text

/-- Dictionary order by code point. -/
def order : Text → Text → Ordering
  | [], [] => .eq
  | [], _ :: _ => .lt
  | _ :: _, [] => .gt
  | a :: s, b :: t => if a < b then .lt else if b < a then .gt else order s t

theorem order_self (s : Text) : order s s = .eq := by
  induction s with
  | nil => rfl
  | cons a s ih => simp [order, ih]

theorem order_swap (s t : Text) : (order s t).swap = order t s := by
  induction s generalizing t with
  | nil => cases t <;> rfl
  | cons a s ih =>
    cases t with
    | nil => rfl
    | cons b t =>
      unfold order
      split
      · next h => simp [Char.lt_asymm h]
      · split <;> simp_all

theorem eq_of_order_eq {s t : Text} (h : order s t = .eq) : s = t := by
  induction s generalizing t with
  | nil => cases t <;> simp_all [order]
  | cons a s ih =>
    cases t with
    | nil => simp [order] at h
    | cons b t =>
      unfold order at h
      split at h
      · simp at h
      · split at h
        · simp at h
        · next h1 h2 => rw [ih h, Char.le_antisymm (Char.not_lt.1 h2) (Char.not_lt.1 h1)]

theorem order_eq_iff {s t : Text} : order s t = .eq ↔ s = t :=
  ⟨eq_of_order_eq, fun h => h ▸ order_self s⟩

theorem order_trans {s t u : Text} (h : order s t = .lt) (h' : order t u = .lt) :
    order s u = .lt := by
  induction s generalizing t u with
  | nil =>
    cases u with
    | nil => cases t <;> simp [order] at h h'
    | cons c u => rfl
  | cons a s ih =>
    cases t with
    | nil => simp [order] at h
    | cons b t =>
      cases u with
      | nil => simp [order] at h'
      | cons c u =>
        unfold order at h h' ⊢
        by_cases hab : a < b
        · by_cases hbc : b < c
          · simp [Char.lt_trans hab hbc]
          · by_cases hcb : c < b
            · simp [hbc, hcb] at h'
            · have : b = c := Char.le_antisymm (Char.not_lt.1 hcb) (Char.not_lt.1 hbc)
              simp [← this, hab]
        · by_cases hba : b < a
          · simp [hab, hba] at h
          · have : a = b := Char.le_antisymm (Char.not_lt.1 hba) (Char.not_lt.1 hab)
            subst this
            simp only [hab, if_false] at h
            split at h'
            · next hlt => simp [hlt]
            · split at h'
              · simp at h'
              · next h1 h2 => simp [h1, h2, ih h h']

/-- The rest of a text after `lead`. -/
def after? : Text → Text → Option Text
  | [], s => some s
  | _ :: _, [] => none
  | a :: lead, c :: s => if a = c then after? lead s else none

@[simp] theorem after?_append (lead s : Text) : after? lead (lead ++ s) = some s := by
  induction lead with
  | nil => rfl
  | cons a lead ih => simp [after?, ih]

theorem eq_append_of_after? {lead s r : Text} (h : after? lead s = some r) : s = lead ++ r := by
  induction lead generalizing s with
  | nil => simpa [after?] using h
  | cons a lead ih =>
    cases s with
    | nil => simp [after?] at h
    | cons c s =>
      by_cases hc : a = c
      · simp [after?, hc] at h
        simp [hc, ih h]
      · simp [after?, hc] at h

theorem after?_eq_some_iff {lead s r : Text} : after? lead s = some r ↔ s = lead ++ r :=
  ⟨eq_append_of_after?, fun h => h ▸ after?_append lead r⟩

/-- The beginning of a text that ends in `tail`. -/
def before? (tail s : Text) : Option Text :=
  (after? tail.reverse s.reverse).map List.reverse

theorem before?_eq_some_iff {tail s r : Text} : before? tail s = some r ↔ s = r ++ tail := by
  unfold before?
  rw [Option.map_eq_some_iff]
  constructor
  · rintro ⟨a, ha, rfl⟩
    simpa using congrArg List.reverse (eq_append_of_after? ha)
  · rintro rfl
    exact ⟨r.reverse, by simp, by simp⟩

@[simp] theorem before?_append (r tail : Text) : before? tail (r ++ tail) = some r :=
  before?_eq_some_iff.2 rfl

/-- Whether a text begins with `lead`. -/
def beginsWith (lead s : Text) : Bool := (after? lead s).isSome

/-- Whether a text ends in `tail`. -/
def endsIn (tail s : Text) : Bool := (before? tail s).isSome

/-- Whether `part` stands anywhere in a text. -/
def holds (part : Text) : Text → Bool
  | [] => beginsWith part []
  | c :: s => beginsWith part (c :: s) || holds part s

/-- The text on both sides of the first `c`. -/
def cut? (c : Char) : Text → Option (Text × Text)
  | [] => none
  | d :: s => if d = c then some ([], s) else (cut? c s).map fun (l, r) => (d :: l, r)

/-- The text on both sides of the last `c`. -/
def cutLast? (c : Char) (s : Text) : Option (Text × Text) :=
  (cut? c s.reverse).map fun (r, l) => (l.reverse, r.reverse)

/-- What stands between `lead` at the beginning and `tail` at the end. -/
def between? (lead tail s : Text) : Option Text := (after? lead s).bind (before? tail)

theorem between?_eq_some_iff {lead tail s r : Text} :
    between? lead tail s = some r ↔ s = lead ++ r ++ tail := by
  simp only [between?, Option.bind_eq_some_iff, after?_eq_some_iff, before?_eq_some_iff]
  constructor
  · rintro ⟨a, rfl, rfl⟩
    simp
  · rintro rfl
    exact ⟨r ++ tail, by simp, rfl⟩

theorem length_between? {lead tail s r : Text} (h : between? lead tail s = some r) :
    s.length = lead.length + r.length + tail.length := by
  simp [between?_eq_some_iff.1 h, Nat.add_assoc]

/-- The pieces between the characters that satisfy `p`, empty ones included. -/
def pieces (p : Char → Bool) : Text → List Text
  | [] => [[]]
  | c :: s =>
    if p c then [] :: pieces p s
    else match pieces p s with
      | [] => [[c]]
      | t :: ts => (c :: t) :: ts

/-- The texts with `sep` between neighbours. -/
def join (sep : Text) : List Text → Text
  | [] => []
  | [t] => t
  | t :: ts => t ++ sep ++ join sep ts

theorem length_join_cons (sep t : Text) (ts : List Text) :
    (join sep (t :: ts)).length =
      t.length + if ts.isEmpty then 0 else sep.length + (join sep ts).length := by
  cases ts <;> simp [join]

theorem length_le_join (sep : Text) {t : Text} {ts : List Text} (h : t ∈ ts) :
    t.length ≤ (join sep ts).length := by
  induction ts with
  | nil => simp at h
  | cons u ts ih =>
    rw [length_join_cons]
    rcases List.mem_cons.1 h with rfl | h
    · omega
    · have := ih h
      have : ts.isEmpty = false := by cases ts <;> simp_all
      simp [this]
      omega

theorem length_join_tail_le (sep : Text) (ts : List Text) :
    (join sep ts.tail).length ≤ (join sep ts).length := by
  cases ts with
  | nil => simp
  | cons t ts =>
    rw [length_join_cons, List.tail_cons]
    split
    · next h => simp [List.isEmpty_iff.1 h, join]
    · omega

/-- Shortening the pieces shortens the whole. -/
theorem length_join_map_le (sep : Text) (f : Text → Text) (hf : ∀ t, (f t).length ≤ t.length)
    (ts : List Text) : (join sep (ts.map f)).length ≤ (join sep ts).length := by
  induction ts with
  | nil => simp
  | cons t ts ih =>
    rw [List.map_cons, length_join_cons, length_join_cons]
    have := hf t
    cases ts with
    | nil => simpa using this
    | cons u ts => simp at ih ⊢; omega

/-- ASCII letters in lower case, all else unchanged. -/
def lower (s : Text) : Text := s.map Char.toLower

/-- Equality up to the case of ASCII letters. -/
def alike (s t : Text) : Bool := lower s == lower t

/-- The decimal digits of a natural number. -/
def ofNat (n : Nat) : Text := Nat.toDigits 10 n

/-- The decimal text of an integer, with a minus sign below zero. -/
def ofInt : Int → Text
  | .ofNat n => ofNat n
  | .negSucc n => '-' :: ofNat (n + 1)

end Text

end NoteVault
