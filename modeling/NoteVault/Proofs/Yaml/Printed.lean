import NoteVault.Proofs.Number.Decimal
import NoteVault.Proofs.Text.Line
import NoteVault.Proofs.Yaml.Stream
import NoteVault.Yaml.Print

/-! No line of the YAML text of a record begins with three dashes. The text begins with content, and it
ends in a line break. -/

namespace NoteVault

namespace Text

variable {s t : Text} {c : Char}

/-- Whether nothing that begins with a text begins with three dashes. -/
def Averts (s : Text) : Prop := ∀ t, ¬ ("---" : Text) <+: s ++ t

/-- Whether no line but the first begins with three dashes, whatever follows the text. -/
def Calm (s : Text) : Prop := ∀ a b, s = a ++ '\n' :: b → b = [] ∨ Averts b

theorem averts_cons (hc : c ≠ '-') (s : Text) : Averts (c :: s) := by
  intro t h
  exact hc (List.cons_prefix_cons.mp h).1.symm

theorem averts_dash_cons (hc : c ≠ '-') (s : Text) : Averts ('-' :: c :: s) := by
  intro t h
  have h' := (List.cons_prefix_cons.mp h).2
  exact hc (List.cons_prefix_cons.mp h').1.symm

theorem Averts.append (h : Averts s) (t : Text) : Averts (s ++ t) := by
  intro u hu
  rw [List.append_assoc] at hu
  exact h _ hu

theorem averts_append_cons (hs : ¬ ("---" : Text) <+: s) (hc : c ≠ '-') (t : Text) :
    Averts (s ++ c :: t) := by
  rintro u ⟨r, hr⟩
  rw [List.append_assoc] at hr
  rcases List.append_eq_append_iff.mp hr with ⟨x, rfl, -⟩ | ⟨x, hx, hc'⟩
  · exact hs ⟨x, rfl⟩
  · cases x with
    | nil => exact hs ⟨[], by rw [hx, List.append_nil, List.append_nil]⟩
    | cons d x =>
      have hd : d ∈ ("---" : Text) := hx ▸ List.mem_append_right s List.mem_cons_self
      rw [← (List.cons.inj hc').1] at hd
      exact hc (List.eq_of_mem_replicate (n := 3) hd)

theorem calm_of_not_mem (h : '\n' ∉ s) : Calm s := by
  rintro a b rfl
  exact absurd (by simp) h

theorem Calm.cons (hc : c ≠ '\n') (hs : Calm s) : Calm (c :: s) := by
  intro a b h
  cases a with
  | nil => exact absurd (List.cons.inj h).1 hc
  | cons d a => exact hs a b (List.cons.inj h).2

theorem Calm.append_left (ht : Calm t) (hs : '\n' ∉ s) : Calm (s ++ t) := by
  induction s with
  | nil => exact ht
  | cons c s ih =>
    rw [List.mem_cons, not_or] at hs
    exact (ih hs.2).cons (Ne.symm hs.1)

theorem Calm.newline (hs : Calm s) (h : s = [] ∨ Averts s) : Calm ('\n' :: s) := by
  intro a b hab
  cases a with
  | nil => exact (List.cons.inj hab).2 ▸ h
  | cons d a => exact hs a b (List.cons.inj hab).2

theorem Calm.append (hs : Calm s) (ht : Calm t) (h : t = [] ∨ Averts t) : Calm (s ++ t) := by
  intro a b hab
  rcases List.append_eq_append_iff.mp hab with ⟨u, rfl, htu⟩ | ⟨u, hsu, hu⟩
  · exact ht u b htu
  · cases u with
    | nil => exact ht [] b hu.symm
    | cons d u =>
      obtain ⟨rfl, rfl⟩ := List.cons.inj hu
      rcases hs a u hsu with rfl | hu'
      · exact h
      · exact .inr (hu'.append t)

theorem Calm.append_of_not_ended (hs : Calm s) (hend : s.getLast? ≠ some '\n') (ht : Calm t) :
    Calm (s ++ t) := by
  intro a b hab
  rcases List.append_eq_append_iff.mp hab with ⟨u, rfl, htu⟩ | ⟨u, hsu, hu⟩
  · exact ht u b htu
  · cases u with
    | nil => exact ht [] b hu.symm
    | cons d u =>
      obtain ⟨rfl, rfl⟩ := List.cons.inj hu
      rcases hs a u hsu with rfl | hu'
      · exact absurd (by rw [hsu]; exact List.getLast?_concat) hend
      · exact .inr (hu'.append t)

theorem Calm.rest {a : Text} (h : Calm (a ++ '\n' :: s)) : Calm s := by
  rintro b r rfl
  exact h (a ++ '\n' :: b) r (by simp)

theorem not_dashes_of_mem_lines (hs : Calm s) (hstart : Averts s) {l : Text} (hl : l ∈ lines s) :
    ¬ ("---" : Text) <+: l := by
  obtain ⟨block, rest, hlines⟩ := List.append_of_mem hl
  -- by induction on the lines in front of it: behind each of them the text is calm and averts dashes
  clear hl
  induction block generalizing s with
  | nil =>
    intro hdashes
    refine hstart [] ?_
    rw [List.append_nil, eq_append_of_lines hlines]
    exact hdashes.trans (List.prefix_append l rest.flatten)
  | cons m ms ih =>
    rcases cases_of_lines hlines with ⟨t, -, rfl, htail⟩ | ⟨-, -, hnil⟩
    · have hsplit := eq_append_of_lines hlines
      rw [List.append_assoc] at hsplit
      obtain rfl := hsplit
      refine ih hs.rest ?_ htail
      refine (hs t _ rfl).resolve_left fun hnil => ?_
      have hnil' : (ms ++ l :: rest).flatten = [] := hnil
      have htail' : lines (ms ++ l :: rest).flatten = ms ++ l :: rest := htail
      rw [hnil'] at htail'
      exact absurd htail'.symm (by simp [lines])
    · exact absurd hnil (by simp)

end Text

open Text (Averts Calm)

section Number

theorem newline_not_mem_ofNat (n : Nat) : '\n' ∉ Text.ofNat n :=
  fun h => absurd (Text.isDigit_of_mem_ofNat h) (by decide)

theorem newline_not_mem_ofInt (n : Int) : '\n' ∉ Text.ofInt n := by
  rw [Text.ofInt_eq, List.mem_append, not_or]
  refine ⟨?_, newline_not_mem_ofNat _⟩
  split_ifs
  · decide
  · exact List.not_mem_nil

theorem newline_not_mem_positional {digits : Text} (h : '\n' ∉ digits) (place : Int) :
    '\n' ∉ (Binary64.positional digits place).1 ∧ '\n' ∉ (Binary64.positional digits place).2 := by
  have hzeros (n : Nat) : '\n' ∉ List.replicate n '0' :=
    fun hmem => absurd (List.eq_of_mem_replicate hmem) (by decide)
  unfold Binary64.positional
  dsimp only
  split_ifs
  · exact ⟨by simp, by simp [hzeros, h]⟩
  · have htake : '\n' ∉ digits.take place.toNat := fun hmem => h (List.mem_of_mem_take hmem)
    exact ⟨by simp [hzeros, htake], fun hmem => h (List.mem_of_mem_drop hmem)⟩

theorem newline_not_mem_toExactText (x : Binary64) : '\n' ∉ x.toExactText [] := by
  have hsign : '\n' ∉ x.signText := by
    unfold Binary64.signText
    split_ifs <;> decide
  have hdigits : '\n' ∉ (x.shortestDigits .even).1 := by
    intro h
    unfold Binary64.shortestDigits at h
    dsimp only at h
    rw [List.mem_reverse] at h
    exact newline_not_mem_ofNat _ (List.mem_reverse.mp (List.dropWhile_sublist _ |>.mem h))
  unfold Binary64.toExactText
  generalize x.shortestDigits .even = d at hdigits
  obtain ⟨digits, place⟩ := d
  obtain ⟨hwhole, hfraction⟩ := newline_not_mem_positional hdigits place
  dsimp only at hdigits ⊢
  generalize Binary64.positional digits place = p at hwhole hfraction
  have htake : '\n' ∉ digits.take 1 := fun h => hdigits (List.mem_of_mem_take h)
  have htail : '\n' ∉ digits.tail := fun h => hdigits (List.mem_of_mem_tail h)
  split_ifs <;> simp [*, newline_not_mem_ofNat]

end Number

namespace Yaml.Print

section Scalar

theorem isBreak_newline : isBreak '\n' = true := by decide

theorem newline_not_mem_spaces (n : Nat) : '\n' ∉ spaces n :=
  fun h => absurd (List.eq_of_mem_replicate h) (by decide)

theorem averts_spaces_append (n : Nat) {s : Text} (h : Averts s) : Averts (spaces n ++ s) := by
  cases n with
  | zero => exact h
  | succ n => exact Text.averts_cons (by decide) _

theorem newline_not_mem_hexUpper (width n : Nat) : '\n' ∉ hexUpper width n := by
  intro h
  obtain ⟨i, -, hi⟩ := List.mem_map.mp h
  have hdigit : ∀ m < 16, (Nat.digitChar m).toUpper ≠ '\n' := by decide
  exact hdigit _ (Nat.mod_lt _ (by decide)) hi

theorem newline_not_mem_numbered {mark : Char} (hmark : mark ≠ '\n') (width n : Nat) :
    '\n' ∉ '\\' :: mark :: hexUpper width n := by
  rw [List.mem_cons, List.mem_cons, not_or, not_or]
  exact ⟨by decide, hmark.symm, newline_not_mem_hexUpper width n⟩

theorem newline_not_mem_ite {p : Prop} [Decidable p] {s t : Text} (hs : p → '\n' ∉ s)
    (ht : '\n' ∉ t) : '\n' ∉ if p then s else t := by
  split_ifs with h
  · exact hs h
  · exact ht

theorem newline_not_mem_escaped (c : Char) : '\n' ∉ escaped c := by
  unfold escaped
  dsimp only
  refine newline_not_mem_ite ?_ ?_
  · rintro h hmem
    obtain rfl := List.mem_singleton.mp hmem
    exact absurd h (by decide)
  -- the characters with an escape of their own, and then those that are numbered
  iterate 14 refine newline_not_mem_ite (fun _ => by decide) ?_
  exact newline_not_mem_ite (fun _ => newline_not_mem_numbered (by decide) _ _)
    (newline_not_mem_ite (fun _ => newline_not_mem_numbered (by decide) _ _)
      (newline_not_mem_numbered (by decide) _ _))

theorem newline_not_mem_doubleQuoted (t : Text) : '\n' ∉ doubleQuoted t := by
  simp [doubleQuoted, newline_not_mem_escaped]

theorem newline_not_mem_singleQuoted (indent : Nat) {t : Text} (h : '\n' ∉ t) :
    '\n' ∉ singleQuoted indent t := by
  have hgo : ∀ broken, '\n' ∉ singleQuoted.go indent broken t := by
    induction t with
    | nil =>
      intro broken
      cases broken <;> simp [singleQuoted.go, newline_not_mem_spaces]
    | cons c t ih =>
      rw [List.mem_cons, not_or] at h
      have ht := ih h.2
      intro broken
      unfold singleQuoted.go
      cases broken <;> split_ifs <;> simp [*, newline_not_mem_spaces]
  simp [singleQuoted, hgo]

/-- The lines of a literal block are blank or indented. -/
theorem calm_literal_go {indent : Nat} (hindent : indent ≠ 0) (t : Text) :
    (∀ broken, Calm (literal.go indent broken t)) ∧
      (literal.go indent true t = [] ∨ Averts (literal.go indent true t)) := by
  induction t with
  | nil => exact ⟨fun _ => Text.calm_of_not_mem List.not_mem_nil, .inl rfl⟩
  | cons c t ih =>
    obtain ⟨hcalm, hstart⟩ := ih
    by_cases hc : isBreak c = true
    · have hgo (broken : Bool) : literal.go indent broken (c :: t) = c :: literal.go indent true t := by
        rw [literal.go, if_pos hc]
      have hdash : c ≠ '-' := by
        rintro rfl
        exact absurd hc (by decide)
      refine ⟨fun broken => ?_, .inr ?_⟩
      · rw [hgo]
        by_cases hline : c = '\n'
        · exact hline ▸ (hcalm true).newline hstart
        · exact (hcalm true).cons hline
      · rw [hgo]
        exact Text.averts_cons hdash _
    · have hline : c ≠ '\n' := by
        rintro rfl
        exact hc isBreak_newline
      have hrest : Calm (c :: literal.go indent false t) := (hcalm false).cons hline
      have hspaces : Averts (spaces indent ++ c :: literal.go indent false t) := by
        obtain ⟨n, rfl⟩ := Nat.exists_eq_succ_of_ne_zero hindent
        exact Text.averts_cons (by decide) _
      refine ⟨fun broken => ?_, .inr ?_⟩
      · rw [literal.go, if_neg hc]
        cases broken with
        | false => exact hrest
        | true => exact hrest.append_left (newline_not_mem_spaces indent)
      · rw [literal.go, if_neg hc]
        exact hspaces

theorem calm_literal {indent : Nat} (hindent : indent ≠ 0) (t : Text) : Calm (literal indent t) := by
  obtain ⟨hcalm, hstart⟩ := calm_literal_go hindent t
  have hmark : '\n' ∉ chompingMark t := by
    unfold chompingMark
    repeat' split
    all_goals decide
  have hlines := (hcalm true).newline hstart
  unfold literal
  split
  · refine Calm.cons (by decide) (hlines.append_left ?_)
    split_ifs <;> simp [hmark]
  · exact Calm.cons (by decide) (hlines.append_left hmark)

theorem calm_text {indent : Nat} (hindent : indent ≠ 0) (t : Text) : Calm (text indent t) := by
  unfold text
  split_ifs with hline
  · exact calm_literal hindent t
  · exact Text.calm_of_not_mem (newline_not_mem_doubleQuoted t)
  all_goals have hnot : '\n' ∉ t := by simpa using hline
  · exact Text.calm_of_not_mem hnot
  · exact Text.calm_of_not_mem (newline_not_mem_singleQuoted indent hnot)
  · exact Text.calm_of_not_mem (newline_not_mem_doubleQuoted t)

theorem not_dashes_text (indent : Nat) (t : Text) : ¬ ("---" : Text) <+: text indent t := by
  have hquoted {c : Char} (hc : c ≠ '-') (s : Text) : ¬ ("---" : Text) <+: c :: s :=
    fun h => hc (List.cons_prefix_cons.mp h).1.symm
  unfold text
  split_ifs with hline hliteral hplain
  · exact hquoted (by decide) _
  · exact hquoted (by decide) _
  · intro hdashes
    obtain ⟨r, rfl⟩ := hdashes
    have hbegins : Text.beginsWith "---" ("---" ++ r) = true := by
      rw [Text.beginsWith, Text.after?_append]
      rfl
    have hindicator : hasIndicator ("---" ++ r) = true := by
      rw [hasIndicator.eq_def, hbegins]
      rfl
    simp only [plainAllowed, hindicator, Bool.not_true, Bool.and_false, Bool.false_and,
      Bool.false_eq_true] at hplain
  · exact hquoted (by decide) _
  · exact hquoted (by decide) _

theorem calm_ended {t : Text} (h : Calm t) : Calm (ended t) := by
  unfold ended
  split_ifs
  · exact h
  · exact h.append (Text.calm_of_not_mem List.not_mem_nil |>.newline (.inl rfl))
      (.inr (Text.averts_cons (by decide) []))

theorem calm_inline? {indent : Nat} {v : Value} {t : Text} (h : inline? indent v = some t) :
    Calm t := by
  unfold inline? at h
  split at h
  all_goals simp only [Option.some.injEq, reduceCtorEq] at h
  all_goals subst h
  · exact Text.calm_of_not_mem (by decide)
  · exact Text.calm_of_not_mem (by split_ifs <;> decide)
  · exact Text.calm_of_not_mem (newline_not_mem_ofInt _)
  · exact Text.calm_of_not_mem (newline_not_mem_toExactText _)
  · exact calm_text (Nat.succ_ne_zero _) _
  · exact Text.calm_of_not_mem (by decide)
  · exact Text.calm_of_not_mem (by decide)

end Scalar

section Collection

theorem items_ne_nil {indent : Nat} {items : List Value} (h : inline? indent (.list items) = none) :
    items ≠ [] := by
  rintro rfl
  contradiction

theorem fields_ne_nil {indent : Nat} {fields : List (Text × Value)}
    (h : inline? indent (.record fields) = none) : fields ≠ [] := by
  rintro rfl
  contradiction

theorem exists_value_compact (indent : Nat) (v : Value) :
    ∃ t, value indent true v = ' ' :: t := by
  have hended (t : Text) : ∃ u, ended (' ' :: t) = ' ' :: u := by
    unfold ended
    split_ifs
    · exact ⟨t, rfl⟩
    · exact ⟨t ++ ['\n'], rfl⟩
  rw [value.eq_def]
  cases v with
  | number n => cases n <;> exact hended _
  | list items =>
    cases items with
    | nil => exact hended _
    | cons v vs => exact ⟨_, rfl⟩
  | record fields =>
    cases fields with
    | nil => exact hended _
    | cons f fs => exact ⟨_, rfl⟩
  | _ => exact hended _

theorem averts_list (depth : Nat) {vs : List Value} (h : vs ≠ []) : Averts (list depth vs) := by
  obtain ⟨v, vs, rfl⟩ := List.exists_cons_of_ne_nil h
  obtain ⟨t, ht⟩ := exists_value_compact depth v
  rw [list, ht]
  exact Text.averts_dash_cons (by decide) _

theorem averts_record (depth : Nat) {fs : List (Text × Value)} (h : fs ≠ []) :
    Averts (record depth fs) := by
  obtain ⟨⟨k, v⟩, fs, rfl⟩ := List.exists_cons_of_ne_nil h
  rw [record]
  split
  · exact (Text.averts_append_cons (not_dashes_text _ k) (by decide) _).append _
  · exact Text.averts_cons (by decide) _

theorem calm_spaces_append (depth : Nat) {s : Text} (hs : Calm s) : Calm (spaces depth ++ s) :=
  hs.append_left (newline_not_mem_spaces depth)

theorem calm_rest {s t : Text} {depth : Nat} {done : Bool} (hs : Calm s)
    (ht : done = false → Calm t ∧ Averts t) :
    Calm (s ++ if done then [] else spaces depth ++ t) := by
  cases done with
  | true => exact hs.append (Text.calm_of_not_mem List.not_mem_nil) (.inl rfl)
  | false =>
    obtain ⟨hcalm, haverts⟩ := ht rfl
    exact hs.append (calm_spaces_append depth hcalm) (.inr (averts_spaces_append depth haverts))

theorem calm_inner {compact : Bool} {depth : Nat} {s : Text} (hs : Calm s) (haverts : Averts s) :
    Calm ((if compact then [' '] else '\n' :: spaces depth) ++ s) := by
  cases compact with
  | true => exact hs.cons (by decide)
  | false => exact (calm_spaces_append depth hs).newline (.inr (averts_spaces_append depth haverts))

theorem calm_entry (depth : Nat) (k : Text) {s t : Text} (hs : Calm s) (ht : Calm t) :
    Calm (if isSimpleKey k then text (depth + 2) k ++ ':' :: s
      else '?' :: ended (' ' :: text (depth + 2) k) ++ spaces depth ++ ':' :: t) := by
  have hkey : Calm (text (depth + 2) k) := calm_text (Nat.succ_ne_zero _) k
  have hcolon {u : Text} : Averts (':' :: u) := Text.averts_cons (by decide) u
  split
  · exact hkey.append (hs.cons (by decide)) (.inr hcolon)
  · have hmark : Calm ('?' :: ended (' ' :: text (depth + 2) k)) :=
      (calm_ended (hkey.cons (by decide))).cons (by decide)
    rw [List.append_assoc]
    exact hmark.append (calm_spaces_append depth (ht.cons (by decide)))
      (.inr (averts_spaces_append depth hcolon))

mutual

theorem calm_value (indent : Nat) (compact : Bool) (v : Value) : Calm (value indent compact v) := by
  rw [value.eq_def]
  split
  · next t hinline => exact calm_ended ((calm_inline? hinline).cons (by decide))
  · next items hinline =>
    exact calm_inner (calm_list _ items) (averts_list _ (items_ne_nil hinline))
  · next fields hinline =>
    exact calm_inner (calm_record _ fields) (averts_record _ (fields_ne_nil hinline))
  · exact Text.calm_of_not_mem List.not_mem_nil

theorem calm_list (depth : Nat) (vs : List Value) : Calm (list depth vs) := by
  cases vs with
  | nil => exact Text.calm_of_not_mem List.not_mem_nil
  | cons v vs =>
    rw [list]
    refine calm_rest ((calm_value depth true v).cons (by decide)) fun hmore => ?_
    exact ⟨calm_list depth vs, averts_list depth (by simpa using hmore)⟩

theorem calm_record (depth : Nat) (fs : List (Text × Value)) : Calm (record depth fs) := by
  cases fs with
  | nil => exact Text.calm_of_not_mem List.not_mem_nil
  | cons f fs =>
    obtain ⟨k, v⟩ := f
    rw [record]
    refine calm_rest ?_ fun hmore => ?_
    · exact calm_entry depth k (calm_value depth false v) (calm_value depth true v)
    · exact ⟨calm_record depth fs, averts_record depth (by simpa using hmore)⟩

end

end Collection

section Ends

/-- Whether a text ends in a line break. -/
def IsEnded (s : Text) : Prop := ∃ e ∈ s.getLast?, isBreak e = true

theorem isEnded_ended (t : Text) : IsEnded (ended t) := by
  unfold ended
  split_ifs with h
  · cases hlast : t.getLast? with
    | none => simp [hlast] at h
    | some e => exact ⟨e, hlast, by simpa [hlast] using h⟩
  · exact ⟨'\n', List.getLast?_concat, isBreak_newline⟩

theorem IsEnded.append {t : Text} (ht : IsEnded t) (s : Text) : IsEnded (s ++ t) := by
  obtain ⟨e, he, hbreak⟩ := ht
  refine ⟨e, ?_, hbreak⟩
  rw [List.getLast?_append, he]
  rfl

theorem IsEnded.rest {s t : Text} {done : Bool} (hs : IsEnded s) (ht : done = false → IsEnded t) :
    IsEnded (s ++ if done then [] else t) := by
  cases done with
  | true => exact (List.append_nil s).symm ▸ hs
  | false => exact (ht rfl).append s

/-- Every value but a list and a record is written on the line of its key. -/
theorem inline?_ne_none {indent : Nat} {v : Value} (hlist : ∀ items, v = .list items → False)
    (hrecord : ∀ fields, v = .record fields → False) : inline? indent v ≠ none := by
  cases v with
  | number n => cases n <;> nofun
  | list items => exact (hlist items rfl).elim
  | record fields => exact (hrecord fields rfl).elim
  | _ => nofun

mutual

theorem isEnded_value (indent : Nat) (compact : Bool) (v : Value) :
    IsEnded (value indent compact v) := by
  rw [value.eq_def]
  split
  · exact isEnded_ended _
  · next items hinline => exact (isEnded_list _ items (items_ne_nil hinline)).append _
  · next fields hinline => exact (isEnded_record _ fields (fields_ne_nil hinline)).append _
  · next hlist hrecord hinline => exact absurd hinline (inline?_ne_none hlist hrecord)

theorem isEnded_list (depth : Nat) (vs : List Value) : vs ≠ [] → IsEnded (list depth vs) := by
  cases vs with
  | nil => exact fun h => absurd rfl h
  | cons v vs =>
    intro _
    rw [list]
    refine .rest ((isEnded_value depth true v).append ['-']) fun hmore => ?_
    exact (isEnded_list depth vs (by simpa using hmore)).append _

theorem isEnded_record (depth : Nat) (fs : List (Text × Value)) :
    fs ≠ [] → IsEnded (record depth fs) := by
  cases fs with
  | nil => exact fun h => absurd rfl h
  | cons f fs =>
    obtain ⟨k, v⟩ := f
    intro _
    rw [record]
    refine .rest ?_ fun hmore => (isEnded_record depth fs (by simpa using hmore)).append _
    split
    · exact ((isEnded_value depth false v).append [':']).append _
    · exact ((isEnded_value depth true v).append [':']).append _

end

theorem isContentHead_of_plainAllowed {c : Char} {s : Text} (h : plainAllowed (c :: s) = true) :
    isContentHead c = true ∧ isBreak c = false := by
  simp only [plainAllowed, hasIndicator, needsEscape, isFirstIndicator, List.any_cons, List.head?_cons,
    Option.map_some, Option.getD_some, isSpaceOrBreak, isSpace, Bool.and_eq_true, Bool.not_eq_true',
    Bool.not_eq_false', Bool.or_eq_false_iff, beq_eq_false_iff_ne] at h
  obtain ⟨⟨⟨⟨⟨-, -, ⟨hmarks, -⟩, -⟩, ⟨hprintable, -⟩, -⟩, hbreak, -⟩, ⟨hspace, -⟩⟩, -⟩ := h
  have hline : isLineEnd c = false := by
    simp only [isBreak, Bool.or_eq_false_iff] at hbreak
    exact hbreak.1.1
  refine ⟨?_, hbreak⟩
  simp only [isContentHead, isSpaceOrTab, isByteOrderMark, hline, Bool.not_eq_true',
    Bool.or_eq_false_iff, beq_eq_false_iff_ne]
  refine ⟨⟨⟨⟨⟨hspace, ?_⟩, trivial⟩, ?_⟩, ?_⟩, ?_⟩
  · rintro rfl
    contradiction
  · intro hmark
    simp [isPrintable, hmark] at hprintable
  · rintro rfl
    contradiction
  · rintro rfl
    contradiction

theorem exists_text (indent : Nat) (t : Text) :
    ∃ c s, text indent t = c :: s ∧ isContentHead c = true ∧ isBreak c = false := by
  unfold text
  split_ifs with _ _ hplain
  · exact ⟨'|', _, rfl, by decide, by decide⟩
  · exact ⟨'"', _, rfl, by decide, by decide⟩
  · cases t with
    | nil => contradiction
    | cons c s =>
      rw [Bool.and_eq_true] at hplain
      exact ⟨c, s, rfl, isContentHead_of_plainAllowed hplain.2⟩
  · exact ⟨'\'', _, rfl, by decide, by decide⟩
  · exact ⟨'"', _, rfl, by decide, by decide⟩

theorem exists_record (depth : Nat) {fs : List (Text × Value)} (h : fs ≠ []) :
    ∃ c s, record depth fs = c :: s ∧ isContentHead c = true ∧ isBreak c = false := by
  obtain ⟨⟨k, v⟩, fs, rfl⟩ := List.exists_cons_of_ne_nil h
  rw [record]
  split
  · obtain ⟨c, s, hs, hc⟩ := exists_text (depth + 2) k
    exact ⟨c, _, by rw [hs]; rfl, hc⟩
  · exact ⟨'?', _, rfl, by decide, by decide⟩

end Ends

end Yaml.Print

end NoteVault
