import NoteVault.Text.Basic

/-! White space and trimming. -/

namespace NoteVault.Text

/-- The characters with the Unicode property `White_Space`. -/
def isBlank (c : Char) : Bool :=
  (0x09 ≤ c.toNat && c.toNat ≤ 0x0D) || c.toNat == 0x20 || c.toNat == 0x85 || c.toNat == 0xA0 ||
  c.toNat == 0x1680 || (0x2000 ≤ c.toNat && c.toNat ≤ 0x200A) || c.toNat == 0x2028 ||
  c.toNat == 0x2029 || c.toNat == 0x202F || c.toNat == 0x205F || c.toNat == 0x3000

/-- A text without its trailing characters that satisfy `p`. -/
def dropTail (p : Char → Bool) (s : Text) : Text := (s.reverse.dropWhile p).reverse

def trimStart (s : Text) : Text := s.dropWhile isBlank

def trimEnd (s : Text) : Text := dropTail isBlank s

/-- A text without the blanks at its two ends. -/
def trim (s : Text) : Text := trimEnd (trimStart s)

/-- Whether a text holds nothing but blanks. -/
def isBlankText (s : Text) : Bool := s.all isBlank

theorem length_dropWhile_le (p : Char → Bool) (s : Text) : (s.dropWhile p).length ≤ s.length := by
  induction s with
  | nil => simp
  | cons c s ih =>
    rw [List.dropWhile_cons]
    split
    · exact Nat.le_succ_of_le ih
    · exact Nat.le_refl _

theorem length_dropTail_le (p : Char → Bool) (s : Text) : (dropTail p s).length ≤ s.length := by
  simpa [dropTail] using length_dropWhile_le p s.reverse

theorem length_trimStart_le (s : Text) : (trimStart s).length ≤ s.length :=
  length_dropWhile_le _ s

theorem length_trim_le (s : Text) : (trim s).length ≤ s.length :=
  Nat.le_trans (length_dropTail_le _ _) (length_trimStart_le s)

end NoteVault.Text
