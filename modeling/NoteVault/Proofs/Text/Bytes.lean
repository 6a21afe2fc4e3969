import Mathlib.Data.List.Basic
import NoteVault.Proofs.Text.Utf8

/-! What bytes that need not be UTF-8 are read as. A character comes from its own bytes and the
replacement from bytes outside of ASCII, so that the text is written back as the same bytes exactly
if nothing in it was replaced. -/

namespace NoteVault.Utf8

theorem toNat_ofNat {n : Nat} (h : n < 0xD800 ∨ 0xDFFF < n ∧ n < 0x110000) :
    (Char.ofNat n).toNat = n := by
  unfold Char.ofNat
  rw [dif_pos h]
  rfl

/-- Which pieces some bytes are made of. -/
inductive Reads : List Piece → List Nat → Prop
  | nil : Reads [] []
  | char {ps : List Piece} {bs : List Nat} (c : Char) (h : Reads ps bs) :
      Reads (.char c :: ps) (encodeChar c ++ bs)
  | broken {ps : List Piece} {bs : List Nat} (xs : List Nat) (hxs : ∀ b ∈ xs, 0x80 ≤ b)
      (h : Reads ps bs) : Reads (.broken :: ps) (xs ++ bs)

/-- The bits of a character when some more bytes of it are read. -/
def addBits (bits : Nat) (bs : List Nat) : Nat := bs.foldl (fun n b => n * 64 + (b - 0x80)) bits

/-- Some bytes begin a character as far as it is read: those that are missing complete it. -/
structure Begun (st : Partial) (xs : List Nat) : Prop where
  high : ∀ b ∈ xs, 0x80 ≤ b
  low : 0x80 ≤ st.low
  completes : ∀ b bs, st.low ≤ b → b ≤ st.high → bs.length + 1 = st.missing →
    (∀ r ∈ bs, 0x80 ≤ r ∧ r ≤ 0xBF) →
    encodeChar (Char.ofNat (addBits st.bits (b :: bs))) = xs ++ b :: bs

theorem addBits_nil (bits : Nat) : addBits bits [] = bits := rfl

theorem addBits_cons (bits b : Nat) (bs : List Nat) :
    addBits bits (b :: bs) = addBits (bits * 64 + (b - 0x80)) bs := by
  rw [addBits, List.foldl_cons, addBits]

theorem begun_two {b : Nat} (hb : 0xC2 ≤ b) (hb' : b < 0xE0) :
    Begun { bits := b - 0xC0, missing := 1 } [b] := by
  refine ⟨by simp; omega, by simp, ?_⟩
  intro c bs hc hc' hlen _
  simp only at hc hc'
  obtain rfl : bs = [] := by simpa using hlen
  have hn := toNat_ofNat (n := (b - 0xC0) * 64 + (c - 0x80)) (by omega)
  simp only [addBits_cons, addBits_nil, encodeChar, hn]
  rw [if_neg (by omega), if_pos (by omega)]
  simp only [List.cons_append, List.nil_append, List.cons.injEq, and_true]
  omega

theorem begun_three {b : Nat} (hb : 0xE0 ≤ b) (hb' : b < 0xF0) :
    Begun ⟨b - 0xE0, 2, if b = 0xE0 then 0xA0 else 0x80, if b = 0xED then 0x9F else 0xBF⟩ [b] := by
  refine ⟨by simp; omega, by dsimp only; split_ifs <;> omega, ?_⟩
  intro c bs hc hc' hlen hbs
  obtain ⟨d, rfl⟩ := List.length_eq_one_iff.mp (show bs.length = 1 by simpa using hlen)
  have hd := hbs d (by simp)
  have hc : 0x80 ≤ c ∧ c ≤ 0xBF ∧ (b = 0xE0 → 0xA0 ≤ c) ∧ (b = 0xED → c ≤ 0x9F) := by
    dsimp only at hc hc'
    split_ifs at hc hc' <;> omega
  have hn := toNat_ofNat (n := ((b - 0xE0) * 64 + (c - 0x80)) * 64 + (d - 0x80)) (by omega)
  simp only [addBits_cons, addBits_nil, encodeChar, hn]
  rw [if_neg (by omega), if_neg (by omega), if_pos (by omega)]
  simp only [List.cons_append, List.nil_append, List.cons.injEq, and_true]
  omega

theorem begun_four {b : Nat} (hb : 0xF0 ≤ b) (hb' : b < 0xF5) :
    Begun ⟨b - 0xF0, 3, if b = 0xF0 then 0x90 else 0x80, if b = 0xF4 then 0x8F else 0xBF⟩ [b] := by
  refine ⟨by simp; omega, by dsimp only; split_ifs <;> omega, ?_⟩
  intro c bs hc hc' hlen hbs
  obtain ⟨d, e, rfl⟩ : ∃ d e, bs = [d, e] := List.length_eq_two.mp (by simpa using hlen)
  have hd := hbs d (by simp)
  have he := hbs e (by simp)
  have hc : 0x80 ≤ c ∧ c ≤ 0xBF ∧ (b = 0xF0 → 0x90 ≤ c) ∧ (b = 0xF4 → c ≤ 0x8F) := by
    dsimp only at hc hc'
    split_ifs at hc hc' <;> omega
  have hn := toNat_ofNat
    (n := (((b - 0xF0) * 64 + (c - 0x80)) * 64 + (d - 0x80)) * 64 + (e - 0x80)) (by omega)
  simp only [addBits_cons, addBits_nil, encodeChar, hn]
  rw [if_neg (by omega), if_neg (by omega), if_neg (by omega)]
  simp only [List.cons_append, List.nil_append, List.cons.injEq, and_true]
  omega

theorem begun_start {b : Nat} {st : Partial} (h : start b = .more st) : Begun st [b] := by
  by_cases h1 : b < 0xC2
  · unfold start at h
    split_ifs at h
  by_cases h2 : b < 0xE0
  · rw [start_two (by omega) h2] at h
    obtain rfl := Start.more.inj h
    exact begun_two (by omega) h2
  by_cases h3 : b < 0xF0
  · rw [start_three (by omega) h3] at h
    obtain rfl := Start.more.inj h
    exact begun_three (by omega) h3
  by_cases h4 : b < 0xF5
  · rw [start_four (by omega) h4] at h
    obtain rfl := Start.more.inj h
    exact begun_four (by omega) h4
  · unfold start at h
    split_ifs at h

theorem Begun.more {st : Partial} {xs : List Nat} {b : Nat} (h : Begun st xs)
    (hlow : st.low ≤ b) (hhigh : b ≤ st.high) :
    Begun { bits := st.bits * 64 + (b - 0x80), missing := st.missing - 1 } (xs ++ [b]) := by
  have hb := h.low
  refine ⟨?_, by simp, ?_⟩
  · intro x hx
    rcases List.mem_append.mp hx with hx | hx
    · exact h.high x hx
    · rw [List.mem_singleton.mp hx]
      omega
  · intro c bs hc hc' hlen hbs
    simp only at hlen hc hc'
    have hrest : ∀ r ∈ c :: bs, 0x80 ≤ r ∧ r ≤ 0xBF := by
      intro r hr
      rcases List.mem_cons.mp hr with rfl | hr
      · exact ⟨hc, hc'⟩
      · exact hbs r hr
    have hwhole := h.completes b (c :: bs) hlow hhigh (by rw [List.length_cons]; omega) hrest
    rw [addBits_cons] at hwhole
    rw [List.append_assoc]
    exact hwhole

theorem reads_start {b : Nat} {p : Piece} {ps : List Piece} {bs : List Nat}
    (hb : start b = .piece p) (h : Reads ps bs) : Reads (p :: ps) (b :: bs) := by
  by_cases hascii : b < 0x80
  · have hp : start b = .piece (.char (Char.ofNat b)) := if_pos hascii
    rw [hp] at hb
    obtain rfl := Start.piece.inj hb
    have hn : (Char.ofNat b).toNat = b := toNat_ofNat (by omega)
    have hbytes : encodeChar (Char.ofNat b) = [b] := by
      simp [encodeChar, hn, hascii]
    have hread := Reads.char (Char.ofNat b) h
    rwa [hbytes] at hread
  · have hp : p = .broken := by
      unfold start at hb
      split_ifs at hb <;> simp_all
    rw [hp]
    exact .broken [b] (by simpa using hascii) h

theorem pieces_outside {st : Partial} {b : Nat} (h : ¬(st.low ≤ b ∧ b ≤ st.high)) (bs : List Nat) :
    pieces (some st) (b :: bs) = .broken :: pieces none (b :: bs) := by
  conv_lhs => rw [pieces, if_neg (by simpa using h)]
  rfl

/-- Every sequence of bytes is read as characters with their own bytes and as broken pieces. -/
theorem reads_pieces (bs : List Nat) :
    Reads (pieces none bs) bs ∧ ∀ st xs, Begun st xs → Reads (pieces (some st) bs) (xs ++ bs) := by
  induction bs with
  | nil =>
    refine ⟨.nil, fun st xs h => ?_⟩
    exact .broken xs h.high .nil
  | cons b bs ih =>
    have hnone : Reads (pieces none (b :: bs)) (b :: bs) := by
      rw [pieces]
      cases hb : start b with
      | piece p => exact reads_start hb ih.1
      | more st => exact ih.2 st [b] (begun_start hb)
    refine ⟨hnone, fun st xs h => ?_⟩
    by_cases hb : st.low ≤ b ∧ b ≤ st.high
    · by_cases hlast : st.missing = 1
      · have hchar := h.completes b [] hb.1 hb.2 hlast.symm (by simp)
        have hread := Reads.char (Char.ofNat (st.bits * 64 + (b - 0x80))) ih.1
        rw [addBits_cons, addBits_nil] at hchar
        rw [hchar] at hread
        simpa [pieces, hb, hlast] using hread
      · have hread := ih.2 _ _ (h.more hb.1 hb.2)
        simpa [pieces, hb, hlast] using hread
    · rw [pieces_outside hb]
      exact .broken xs h.high hnone

theorem pieces_append_ascii {b : Nat} (hb : b < 0x80) (xs ys : List Nat) :
    pieces none (xs ++ b :: ys) = pieces none xs ++ .char (Char.ofNat b) :: pieces none ys ∧
      ∀ st : Partial, 0x80 ≤ st.low → pieces (some st) (xs ++ b :: ys) =
        pieces (some st) xs ++ .char (Char.ofNat b) :: pieces none ys := by
  induction xs with
  | nil =>
    have hstart : start b = .piece (.char (Char.ofNat b)) := if_pos hb
    refine ⟨by simp [pieces, hstart], fun st hst => ?_⟩
    have hout : ¬(st.low ≤ b ∧ b ≤ st.high) := by omega
    simp [pieces, hstart, hout]
  | cons x xs ih =>
    have hnone : pieces none (x :: xs ++ b :: ys) =
        pieces none (x :: xs) ++ .char (Char.ofNat b) :: pieces none ys := by
      rw [List.cons_append, pieces, pieces]
      cases hx : start x with
      | piece p => simp only [ih.1, List.cons_append]
      | more st => exact ih.2 st (begun_start hx).low
    refine ⟨hnone, fun st hst => ?_⟩
    by_cases hx : st.low ≤ x ∧ x ≤ st.high
    · by_cases hlast : st.missing = 1
      · simp [pieces, hx, hlast, ih.1]
      · simp [pieces, hx, hlast, ih.2]
    · rw [List.cons_append, pieces_outside hx, pieces_outside hx, ← List.cons_append, hnone,
        List.cons_append]

/-! ### Texts of bytes -/

section Text

variable {bs : Bytes} {t : Text}

/-- The character that a piece is read as. -/
def Piece.shown : Piece → Char
  | .char c => c
  | .broken => replacement

theorem decode_eq (bs : Bytes) : decode bs = (piecesOf bs).map Piece.shown := by
  rw [decode]
  congr 1

theorem reads_piecesOf (bs : Bytes) : Reads (piecesOf bs) (bs.map UInt8.toNat) :=
  (reads_pieces _).1

theorem Reads.eq_flatMap {xs : List Nat} (h : Reads (t.map .char) xs) :
    xs = t.flatMap encodeChar := by
  induction t generalizing xs with
  | nil =>
    cases h
    rfl
  | cons c t ih =>
    cases h with
    | char _ h => rw [List.flatMap_cons, ← ih h]

/-- Bytes are read without a broken piece exactly if they are those of the text. -/
theorem piecesOf_eq_iff : piecesOf bs = t.map .char ↔ bs = encode t := by
  constructor
  · intro h
    have hreads := reads_piecesOf bs
    rw [h] at hreads
    simp [encode, ← hreads.eq_flatMap, Function.comp_def]
  · rintro rfl
    exact piecesOf_encode t

theorem decode?_eq_some_iff : decode? bs = some t ↔ bs = encode t := by
  rw [← piecesOf_eq_iff, decode?]
  generalize piecesOf bs = ps
  induction ps generalizing t with
  | nil => cases t <;> simp
  | cons p ps ih =>
    rw [List.mapM_cons]
    cases p with
    | broken => cases t <;> simp
    | char c => cases t <;> simp [Option.bind_eq_some_iff, ih, and_comm]

/-- Bytes outlast being read as a text and written again exactly if they are UTF-8. -/
theorem encode_decode_eq_iff : encode (decode bs) = bs ↔ (decode? bs).isSome = true := by
  rw [Option.isSome_iff_exists]
  constructor
  · intro h
    exact ⟨decode bs, decode?_eq_some_iff.mpr h.symm⟩
  · rintro ⟨t, ht⟩
    rw [decode?_eq_some_iff.mp ht, decode_encode]

theorem decode_append (xs ys : Bytes) {b : UInt8} (hb : b.toNat < 0x80) :
    decode (xs ++ b :: ys) = decode xs ++ Char.ofNat b.toNat :: decode ys := by
  have h := (pieces_append_ascii hb (xs.map UInt8.toNat) (ys.map UInt8.toNat)).1
  simp only [decode_eq, piecesOf, List.map_append, List.map_cons, h, Piece.shown]

theorem decode_eq_iff_of_ascii (ht : ∀ c ∈ t, c.toNat < 0x80) : decode bs = t ↔ bs = encode t := by
  constructor
  · intro h
    rw [decode_eq] at h
    rw [← piecesOf_eq_iff, ← h, List.map_map]
    refine (List.map_id _).symm.trans (List.map_congr_left ?_)
    intro p hp
    cases p with
    | char c => rfl
    | broken =>
      have hmem : replacement ∈ t := h ▸ List.mem_map_of_mem hp
      exact absurd (ht _ hmem) (by decide)
  · rintro rfl
    exact decode_encode t

theorem encodeChar_of_ascii {c : Char} (hc : c.toNat < 0x80) : encodeChar c = [c.toNat] := by
  simp [encodeChar, hc]

theorem encode_append (s t : Text) : encode (s ++ t) = encode s ++ encode t := by
  simp [encode]

theorem encode_cons_of_ascii {c : Char} (hc : c.toNat < 0x80) (t : Text) :
    encode (c :: t) = UInt8.ofNat c.toNat :: encode t := by
  simp [encode, encodeChar_of_ascii hc]

theorem mem_of_mem_decode {c : Char} (hc : c.toNat < 0x80) (h : c ∈ decode bs) :
    c.toNat ∈ bs.map UInt8.toNat := by
  rw [decode_eq] at h
  have hreads := reads_piecesOf bs
  generalize piecesOf bs = ps at h hreads
  generalize bs.map UInt8.toNat = xs at hreads ⊢
  induction hreads with
  | nil => simp at h
  | char d _ ih =>
    rw [List.map_cons, List.mem_cons] at h
    rcases h with rfl | h
    · simp [encodeChar_of_ascii hc]
    · exact List.mem_append_right _ (ih h)
  | broken xs _ _ ih =>
    rw [List.map_cons, List.mem_cons] at h
    rcases h with rfl | h
    · exact absurd hc (by decide)
    · exact List.mem_append_right _ (ih h)

end Text

end NoteVault.Utf8
