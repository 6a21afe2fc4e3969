import NoteVault.Proofs.Text.Trim
import NoteVault.Query.Sort

/-! The two ways in which a record of a key and a direction becomes a sort key. A request reads the
record as it is. A view makes a text of it, with a minus sign in front for a descending order, and this
text is read again. -/

namespace NoteVault

/-- Whether a direction says that the order descends. -/
def descends : Option Text → Bool
  | some d => Text.lower d == "desc" || Text.lower d == "descending"
  | none => false

/-- A record with a key and, if there is one, a direction. -/
def sortRecord (key : Text) (direction : Option Text) : Value :=
  .record (("property".toList, .text key) ::
    Decode.writeOptional "direction" (direction.map .text))

/-- The text that a view makes of a key and a direction. -/
def signed (key : Text) (direction : Option Text) : Text :=
  if descends direction then '-' :: key else key

theorem orderKey?_sortRecord (key : Text) (direction : Option Text) :
    Spec.orderKey? (sortRecord key direction) = some (signed key direction) := by
  cases direction <;> rfl

theorem ofValue?_sortRecord (key : Text) (direction : Option Text) :
    SortInput.ofValue? (sortRecord key direction) = some (.record key direction) := by
  cases direction <;> rfl

namespace SortKey

variable {key rest : Text} {direction : Option Text}

theorem ofInput_record (key : Text) (direction : Option Text) :
    ofInput (.record key direction) = ⟨Text.trim key, descends direction⟩ := by
  cases direction <;> rfl

theorem ofText_of_trim_eq_cons (h : Text.trim key = '-' :: rest) :
    ofText key = ⟨Text.trim rest, true⟩ := by
  rw [ofText, h]
  rfl

theorem ofText_of_head?_ne (h : (Text.trim key).head? ≠ some '-') :
    ofText key = ⟨Text.trim key, false⟩ := by
  rw [ofText]
  split
  · next rest hrest =>
    rw [hrest] at h
    exact absurd rfl h
  · rfl

/-- The minus sign that a view puts in front of a key is the one that is read again, whatever the key
begins with. -/
theorem ofText_cons (key : Text) : ofText ('-' :: key) = ⟨Text.trim key, true⟩ := by
  have htrim : Text.trim ('-' :: key) = '-' :: Text.trimEnd key := Text.trim_append_cons rfl [] key
  rw [ofText_of_trim_eq_cons htrim, Text.trim_trimEnd]

/-- A request makes of a record the key that it names, in the order that it names. A view makes the
same of it exactly if the order descends or the key does not begin with a minus sign: one that does is
read as the key behind the sign, in descending order. -/
theorem ofText_signed_eq_ofInput_iff (key : Text) (direction : Option Text) :
    ∃ entry input, Spec.orderKey? (sortRecord key direction) = some entry ∧
      SortInput.ofValue? (sortRecord key direction) = some input ∧
      ofInput input = ⟨Text.trim key, descends direction⟩ ∧
      (ofText entry = ofInput input ↔
        descends direction = true ∨ (Text.trim key).head? ≠ some '-') ∧
      ∀ rest, descends direction = false → Text.trim key = '-' :: rest →
        ofText entry = ⟨Text.trim rest, true⟩ := by
  refine ⟨_, _, orderKey?_sortRecord key direction, ofValue?_sortRecord key direction,
    ofInput_record key direction, ?_, ?_⟩
  · rw [ofInput_record, signed]
    cases descends direction with
    | true =>
      rw [if_pos rfl, ofText_cons]
      exact iff_of_true rfl (.inl rfl)
    | false =>
      rw [if_neg Bool.false_ne_true, or_iff_right Bool.false_ne_true]
      constructor
      · intro heq hsign
        obtain ⟨rest, hrest⟩ := List.head?_eq_some_iff.mp hsign
        rw [ofText_of_trim_eq_cons hrest] at heq
        exact Bool.noConfusion (congrArg SortKey.descending heq)
      · exact ofText_of_head?_ne
  · intro rest hdescends hrest
    rw [signed, hdescends, if_neg Bool.false_ne_true, ofText_of_trim_eq_cons hrest]

/-- A key that begins with a minus sign, in ascending order: the view sorts by another key, and the
other way round. -/
theorem ofText_signed_ascending :
    (Spec.orderKey? (sortRecord "-a" (some "asc"))).map ofText = some ⟨"a", true⟩ ∧
      (SortInput.ofValue? (sortRecord "-a" (some "asc"))).map ofInput = some ⟨"-a", false⟩ := by
  decide

end SortKey

end NoteVault
