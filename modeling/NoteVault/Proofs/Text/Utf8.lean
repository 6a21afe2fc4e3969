import Mathlib.Tactic.SplitIfs
import NoteVault.Text.Utf8

/-! A text is read back from its bytes: each character from its own. -/

namespace NoteVault.Utf8

theorem valid_toNat (c : Char) :
    c.toNat < 0xD800 ∨ 0xDFFF < c.toNat ∧ c.toNat < 0x110000 := c.valid

section Start

variable {b : Nat}

theorem start_two (h : 0xC2 ≤ b) (h' : b < 0xE0) :
    start b = .more { bits := b - 0xC0, missing := 1 } := by
  unfold start
  rw [if_neg (by omega), if_neg (by omega), if_pos h']

theorem start_three (h : 0xE0 ≤ b) (h' : b < 0xF0) :
    start b = .more ⟨b - 0xE0, 2, if b = 0xE0 then 0xA0 else 0x80,
      if b = 0xED then 0x9F else 0xBF⟩ := by
  unfold start
  rw [if_neg (by omega), if_neg (by omega), if_neg (by omega), if_pos h']

theorem start_four (h : 0xF0 ≤ b) (h' : b < 0xF5) :
    start b = .more ⟨b - 0xF0, 3, if b = 0xF0 then 0x90 else 0x80,
      if b = 0xF4 then 0x8F else 0xBF⟩ := by
  unfold start
  rw [if_neg (by omega), if_neg (by omega), if_neg (by omega), if_neg (by omega), if_pos h']

theorem pieces_start {st : Partial} (h : start b = .more st) (bs : List Nat) :
    pieces none (b :: bs) = pieces (some st) bs := by
  rw [pieces, h]

theorem pieces_last {bits low high : Nat} (hlow : low ≤ b) (hhigh : b ≤ high) (bs : List Nat) :
    pieces (some ⟨bits, 1, low, high⟩) (b :: bs) =
      .char (Char.ofNat (bits * 64 + (b - 0x80))) :: pieces none bs := by
  simp [pieces, hlow, hhigh]

theorem pieces_more {bits missing low high : Nat} (hlow : low ≤ b) (hhigh : b ≤ high)
    (bs : List Nat) :
    pieces (some ⟨bits, missing + 2, low, high⟩) (b :: bs) =
      pieces (some { bits := bits * 64 + (b - 0x80), missing := missing + 1 }) bs := by
  simp [pieces, hlow, hhigh]

end Start

/-- The bytes of a character make one piece, whatever follows them. -/
theorem pieces_encodeChar (c : Char) (bs : List Nat) :
    pieces none (encodeChar c ++ bs) = .char c :: pieces none bs := by
  have hvalid := valid_toNat c
  have hchar : Char.ofNat c.toNat = c := Char.ofNat_toNat c
  generalize hn : c.toNat = n at hvalid hchar
  unfold encodeChar
  simp only [hn]
  by_cases h1 : n < 0x80
  · simp [h1, pieces, start, hchar]
  by_cases h2 : n < 0x800
  · have hbits : (0xC0 + n / 64 - 0xC0) * 64 + (0x80 + n % 64 - 0x80) = n := by omega
    rw [if_neg h1, if_pos h2, List.cons_append, List.singleton_append,
      pieces_start (start_two (by omega) (by omega)), pieces_last (by omega) (by omega), hbits, hchar]
  by_cases h3 : n < 0x10000
  · have hbits : ((0xE0 + n / 4096 - 0xE0) * 64 + (0x80 + n / 64 % 64 - 0x80)) * 64 +
        (0x80 + n % 64 - 0x80) = n := by omega
    rw [if_neg h1, if_neg h2, if_pos h3, List.cons_append, List.cons_append,
      List.singleton_append, pieces_start (start_three (by omega) (by omega)),
      pieces_more (by split_ifs <;> omega) (by split_ifs <;> omega),
      pieces_last (by omega) (by omega), hbits, hchar]
  · have hbits : (((0xF0 + n / 262144 - 0xF0) * 64 + (0x80 + n / 4096 % 64 - 0x80)) * 64 +
        (0x80 + n / 64 % 64 - 0x80)) * 64 + (0x80 + n % 64 - 0x80) = n := by omega
    rw [if_neg h1, if_neg h2, if_neg h3, List.cons_append, List.cons_append, List.cons_append,
      List.singleton_append, pieces_start (start_four (by omega) (by omega)),
      pieces_more (by split_ifs <;> omega) (by split_ifs <;> omega),
      pieces_more (by omega) (by omega), pieces_last (by omega) (by omega), hbits, hchar]

theorem lt_of_mem_encodeChar {c : Char} {b : Nat} (h : b ∈ encodeChar c) : b < 256 := by
  have hvalid := valid_toNat c
  unfold encodeChar at h
  dsimp only at h
  split_ifs at h <;> simp only [List.mem_cons, List.not_mem_nil, or_false] at h <;> omega

theorem map_toNat_encode (t : Text) : (encode t).map UInt8.toNat = t.flatMap encodeChar := by
  have hbyte : ∀ b ∈ t.flatMap encodeChar, (UInt8.toNat ∘ UInt8.ofNat) b = id b := by
    intro b hb
    obtain ⟨c, -, hc⟩ := List.mem_flatMap.mp hb
    exact UInt8.toNat_ofNat_of_lt (lt_of_mem_encodeChar hc)
  rw [encode, List.map_map, List.map_congr_left hbyte, List.map_id]

theorem piecesOf_encode (t : Text) : piecesOf (encode t) = t.map .char := by
  rw [piecesOf, map_toNat_encode]
  induction t with
  | nil => rfl
  | cons c t ih => rw [List.flatMap_cons, pieces_encodeChar, ih, List.map_cons]

theorem decode_encode (t : Text) : decode (encode t) = t := by
  rw [decode, piecesOf_encode, List.map_map]
  exact List.map_id t

end NoteVault.Utf8
