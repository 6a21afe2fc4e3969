import NoteVault.Proofs.Note.Fence
import NoteVault.Proofs.Text.Bytes

/-! What stands behind the block of a text. It is a number of whole lines, so that the bytes behind
the block of a file are found without knowing what the other bytes are read as. -/

namespace NoteVault.Fence

open Text (lines)
open Utf8 (decode encode)

/-- The first line of a text opens a block, and a later one closes it. -/
def BeginsBlock (s : Text) : Prop :=
  ∃ first rest, lines s = first :: rest ∧ isOpening first = true ∧ ∃ l ∈ rest, isClosing l = true

/-- How many of some lines the block takes that they begin with. -/
def blockLines : List Text → Nat
  | first :: fence :: rest =>
    if isOpening first then
      match rest.findIdx? isClosing with
      | some n => n + 3
      | none => if isClosing fence then 2 else 0
    else 0
  | _ => 0

theorem findIdx?_of_untilFence? {ls block body : List Text}
    (h : untilFence? ls = some (block, body)) :
    ls.findIdx? isClosing = some block.length ∧ body = ls.drop (block.length + 1) := by
  obtain ⟨hblock, f, hf, rfl⟩ := untilFence?_eq_some h
  have hnone : block.findIdx? isClosing = none := List.findIdx?_eq_none_iff.mpr hblock
  constructor
  · simp [List.findIdx?_append, hnone, List.findIdx?_cons, hf]
  · simp [← List.drop_drop]

theorem findIdx?_of_not_untilFence? {ls : List Text} (h : untilFence? ls = none) :
    ls.findIdx? isClosing = none :=
  List.findIdx?_eq_none_iff.mpr (untilFence?_eq_none_iff.mp h)

theorem beginsBlock_iff {s first : Text} {rest : List Text} (hs : lines s = first :: rest) :
    BeginsBlock s ↔ isOpening first = true ∧ ∃ l ∈ rest, isClosing l = true := by
  constructor
  · rintro ⟨first', rest', hs', hopen, hclose⟩
    obtain ⟨rfl, rfl⟩ := List.cons.inj (hs.symm.trans hs')
    exact ⟨hopen, hclose⟩
  · rintro ⟨hopen, hclose⟩
    exact ⟨first, rest, hs, hopen, hclose⟩

/-- The lines of a text with a block are those of the block and those of the body. -/
theorem split_cases (s : Text) :
    (blockLines (lines s) = 0 ∧ ¬BeginsBlock s ∧ split s = (none, s)) ∨
      BeginsBlock s ∧ ∃ yaml, split s =
        (some yaml, ((lines s).drop (blockLines (lines s))).flatten) := by
  rcases hs : lines s with _ | ⟨first, rest⟩
  · exact .inl ⟨rfl, by simp [BeginsBlock, hs], split_of_not_opening (by simp [hs])⟩
  rw [beginsBlock_iff hs]
  by_cases hopen : isOpening first = true
  · rcases rest with _ | ⟨fence, rest⟩
    · exact .inl ⟨rfl, by simp, split_of_no_fence hs hopen (by simp)⟩
    cases hrest : untilFence? rest with
    | some later =>
      obtain ⟨block, body⟩ := later
      obtain ⟨hlength, hbody⟩ := findIdx?_of_untilFence? hrest
      obtain ⟨-, f, hf, hlines⟩ := untilFence?_eq_some hrest
      refine .inr ⟨⟨hopen, f, by simp [hlines], hf⟩,
        Text.withoutLineEnd (fence ++ block.flatten), ?_⟩
      rw [split_of_later_fence hs hopen hrest, hbody]
      simp [blockLines, hopen, hlength]
    | none =>
      have hnone := findIdx?_of_not_untilFence? hrest
      by_cases hclose : isClosing fence = true
      · refine .inr ⟨⟨hopen, fence, by simp, hclose⟩, [], ?_⟩
        rw [split_of_direct_fence hs hopen hclose hrest]
        simp [blockLines, hopen, hnone, hclose]
      · have hfree : ∀ l ∈ fence :: rest, isClosing l = false := by
          intro l hl
          rcases List.mem_cons.mp hl with rfl | hl
          · simpa using hclose
          · exact untilFence?_eq_none_iff.mp hrest l hl
        refine .inl ⟨by simp [blockLines, hnone, hclose], ?_, split_of_no_fence hs hopen hfree⟩
        rintro ⟨-, l, hl, hl'⟩
        simp [hfree l hl] at hl'
  · refine .inl ⟨?_, by simp [hopen], split_of_not_opening ?_⟩
    · rcases rest with _ | ⟨fence, rest⟩
      · rfl
      · simp [blockLines, hopen]
    · intro l ls hl
      obtain ⟨rfl, -⟩ := List.cons.inj (hs.symm.trans hl)
      simpa using hopen

theorem split_eq_self_iff {s : Text} : split s = (none, s) ↔ ¬BeginsBlock s := by
  rcases split_cases s with ⟨-, hnot, hs⟩ | ⟨hblock, yaml, hs⟩
  · simp [hs, hnot]
  · simp [hs, hblock]

theorem split_snd (s : Text) : (split s).2 = ((lines s).drop (blockLines (lines s))).flatten := by
  rcases split_cases s with ⟨hzero, -, hs⟩ | ⟨-, yaml, hs⟩
  · rw [hs, hzero, List.drop_zero, Text.flatten_lines]
  · rw [hs]

theorem blockLines_map_congr {α : Type} {f g : α → Text}
    (hopen : ∀ l, isOpening (f l) = isOpening (g l))
    (hclose : ∀ l, isClosing (f l) = isClosing (g l)) (ls : List α) :
    blockLines (ls.map f) = blockLines (ls.map g) := by
  have hcomp : isClosing ∘ f = isClosing ∘ g := funext hclose
  rcases ls with _ | ⟨first, _ | ⟨fence, rest⟩⟩
  · rfl
  · rfl
  · simp only [List.map_cons, blockLines, hopen, hclose, List.findIdx?_map, hcomp]

/-! ### Bytes -/

section Bytes

variable {bs l : Bytes} {t : Text}

/-- Some bytes, each read as the character with its number. -/
def single (bs : Bytes) : Text := bs.map fun b => Char.ofNat b.toNat

/-- The bytes of a file behind its block, which is looked for among the bytes; all of them if there
is none. -/
def behind (bs : Bytes) : Bytes := bs.drop (bs.length - (split (single bs)).2.length)

theorem single_append (xs ys : Bytes) : single (xs ++ ys) = single xs ++ single ys :=
  List.map_append

theorem single_injective : Function.Injective single := by
  refine List.map_injective_iff.mpr ?_
  intro a b h
  have hnat := congrArg Char.toNat h
  have ha := a.toNat_lt
  have hb := b.toNat_lt
  rw [Utf8.toNat_ofNat (by omega), Utf8.toNat_ofNat (by omega)] at hnat
  exact UInt8.toNat_inj.mp hnat

theorem single_encode (ht : ∀ c ∈ t, c.toNat < 0x80) : single (encode t) = t := by
  induction t with
  | nil => rfl
  | cons c t ih =>
    have hc := ht c (by simp)
    have hbyte : (UInt8.ofNat c.toNat).toNat = c.toNat := UInt8.toNat_ofNat_of_lt (hc.trans (by decide))
    have hrest : single (encode t) = t := ih fun d hd => ht d (by simp [hd])
    rw [Utf8.encode_cons_of_ascii hc, single, List.map_cons, hbyte, Char.ofNat_toNat]
    exact congrArg (c :: ·) hrest

theorem single_eq_iff_of_ascii (ht : ∀ c ∈ t, c.toNat < 0x80) : single bs = t ↔ bs = encode t := by
  constructor
  · intro h
    exact single_injective (h.trans (single_encode ht).symm)
  · rintro rfl
    exact single_encode ht

theorem ascii_of_isClosing (h : isClosing t = true) : ∀ c ∈ t, c.toNat < 0x80 := by
  obtain ⟨p, hp, e, he, rfl⟩ := isClosing_iff.mp h
  intro c hc
  simp only [List.mem_append] at hc
  rcases hc with (hc | hc) | hc
  · obtain rfl : c = '-' := by simpa using hc
    decide
  · have hpad := hp c hc
    simp only [isPadding, Bool.or_eq_true, beq_iff_eq] at hpad
    rcases hpad with rfl | rfl
    · decide
    · decide
  · have hends : ∀ e ∈ [] :: Text.lineEnds, ∀ c ∈ e, c.toNat < 0x80 := by simp [Text.lineEnds]
    exact hends e he c hc

theorem isClosing_of_isOpening (h : isOpening t = true) : isClosing t = true := by
  obtain ⟨p, hp, e, he, rfl⟩ := isOpening_iff.mp h
  exact isClosing_iff.mpr ⟨p, hp, e, List.mem_cons_of_mem _ he, rfl⟩

/-- A property of ASCII texts holds of bytes read as UTF-8 if it holds of them read singly. -/
theorem decode_iff_single {p : Text → Bool} (hp : ∀ t, p t = true → ∀ c ∈ t, c.toNat < 0x80)
    (l : Bytes) : p (decode l) = p (single l) := by
  rw [Bool.eq_iff_iff]
  constructor
  · intro h
    have hl := (Utf8.decode_eq_iff_of_ascii (hp _ h)).mp rfl
    have hsingle := single_encode (hp _ h)
    rw [← hl] at hsingle
    rwa [hsingle]
  · intro h
    have hl := (single_eq_iff_of_ascii (hp _ h)).mp rfl
    have hdecode := Utf8.decode_encode (single l)
    rw [← hl] at hdecode
    rwa [hdecode]

/-- Bytes cut behind each line feed. -/
inductive Lined : List Bytes → Prop
  | nil : Lined []
  | last (l : Bytes) (hne : l ≠ []) (hl : 0x0A ∉ l) : Lined [l]
  | cons (l : Bytes) (hl : 0x0A ∉ l) {ls : List Bytes} (h : Lined ls) : Lined ((l ++ [0x0A]) :: ls)

theorem exists_lined (bs : Bytes) : ∃ ls, Lined ls ∧ ls.flatten = bs := by
  induction hn : bs.length using Nat.strong_induction_on generalizing bs with
  | _ n ih =>
    by_cases hnl : (0x0A : UInt8) ∈ bs
    · obtain ⟨l, rest, rfl, hl⟩ := List.eq_append_cons_of_mem hnl
      have hlt : rest.length < n := by
        rw [← hn]
        simp
        omega
      obtain ⟨ls, hls, hflat⟩ := ih _ hlt rest rfl
      exact ⟨_, .cons l hl hls, by simp [hflat]⟩
    · by_cases hbs : bs = []
      · exact ⟨[], .nil, hbs.symm⟩
      · exact ⟨[bs], .last bs hbs hnl, by simp⟩

theorem Lined.drop {ls : List Bytes} (h : Lined ls) (n : Nat) : Lined (ls.drop n) := by
  induction h generalizing n with
  | nil => simpa using Lined.nil
  | last l hne hl =>
    cases n with
    | zero => exact .last l hne hl
    | succ n => simpa using Lined.nil
  | cons l hl h ih =>
    cases n with
    | zero => exact .cons l hl h
    | succ n => exact ih n

theorem newline_not_mem_decode (hl : 0x0A ∉ l) : '\n' ∉ decode l := by
  intro h
  obtain ⟨b, hb, hnat⟩ := List.mem_map.mp (Utf8.mem_of_mem_decode (c := '\n') (by decide) h)
  have hb' : b = 0x0A := UInt8.toNat_inj.mp hnat
  exact hl (hb' ▸ hb)

theorem newline_not_mem_single (hl : 0x0A ∉ l) : '\n' ∉ single l := by
  intro h
  obtain ⟨b, hb, hc⟩ := List.mem_map.mp h
  have hb' : single [b] = single [0x0A] := congrArg (· :: []) hc
  have hb' : b = 0x0A := by simpa using single_injective hb'
  exact hl (hb' ▸ hb)

theorem decode_ne_nil (hne : bs ≠ []) : decode bs ≠ [] := by
  intro h
  exact hne ((Utf8.decode_eq_iff_of_ascii (by simp)).mp h)

theorem lines_decode {ls : List Bytes} (h : Lined ls) :
    lines (decode ls.flatten) = ls.map decode := by
  induction h with
  | nil => rfl
  | last l hne hl =>
    simpa using Text.lines_eq_singleton (newline_not_mem_decode hl) (decode_ne_nil hne)
  | @cons l hl ls h ih =>
    have hline := Utf8.decode_append l [] (b := 0x0A) (by decide)
    have hrest := Utf8.decode_append l ls.flatten (b := 0x0A) (by decide)
    have hflat : ((l ++ [0x0A]) :: ls).flatten = l ++ 0x0A :: ls.flatten := by simp
    rw [hflat, hrest, List.map_cons, hline, ← ih]
    exact Text.lines_append_newline (newline_not_mem_decode hl) _

theorem lines_single {ls : List Bytes} (h : Lined ls) :
    lines (single ls.flatten) = ls.map single := by
  induction h with
  | nil => rfl
  | last l hne hl =>
    simpa using Text.lines_eq_singleton (newline_not_mem_single hl) (by simpa [single] using hne)
  | @cons l hl ls h ih =>
    have hflat : ((l ++ [0x0A]) :: ls).flatten = l ++ 0x0A :: ls.flatten := by simp
    rw [hflat, single_append, List.map_cons, single_append, ← ih]
    exact Text.lines_append_newline (newline_not_mem_single hl) _

theorem flatten_map_decode {ls : List Bytes} (h : Lined ls) :
    (ls.map decode).flatten = decode ls.flatten := by
  rw [← lines_decode h, Text.flatten_lines]

theorem flatten_map_single {ls : List Bytes} (h : Lined ls) :
    (ls.map single).flatten = single ls.flatten := by
  rw [← lines_single h, Text.flatten_lines]

/-- What stands behind the block is a number of whole lines of bytes. -/
theorem behind_flatten {ls : List Bytes} (h : Lined ls) :
    behind ls.flatten = (ls.drop (blockLines (ls.map single))).flatten := by
  generalize hn : blockLines (ls.map single) = n
  have hsingle : (split (single ls.flatten)).2 = single (ls.drop n).flatten := by
    rw [split_snd, lines_single h, hn, ← List.map_drop, flatten_map_single (h.drop n)]
  have hlength : (single (ls.drop n).flatten).length = (ls.drop n).flatten.length :=
    List.length_map _
  have hbytes : ls.flatten = (ls.take n).flatten ++ (ls.drop n).flatten := by
    rw [← List.flatten_append, List.take_append_drop]
  have htotal := congrArg List.length hbytes
  rw [List.length_append] at htotal
  rw [behind, hsingle, hlength, htotal, Nat.add_sub_cancel]
  conv_lhs => rw [hbytes]
  exact List.drop_left

/-- The bytes behind the block are read as the text behind the block. -/
theorem decode_behind (bs : Bytes) : decode (behind bs) = (split (decode bs)).2 := by
  obtain ⟨ls, hls, rfl⟩ := exists_lined bs
  have hcount : blockLines (ls.map decode) = blockLines (ls.map single) :=
    blockLines_map_congr
      (decode_iff_single fun t h => ascii_of_isClosing (isClosing_of_isOpening h))
      (decode_iff_single fun t h => ascii_of_isClosing h) ls
  rw [behind_flatten hls, split_snd, lines_decode hls, hcount, ← List.map_drop,
    flatten_map_decode (hls.drop _)]

end Bytes

end NoteVault.Fence
