import Mathlib.Data.List.Induction
import Mathlib.Data.List.Nodup
import Mathlib.Data.List.Perm.Basic
import Mathlib.Data.List.TakeWhile
import NoteVault.Proofs.Value.Record

/-! The order of the names of a record from which some entries are removed, one after the other. The
last entry moves into the gap, so that the names that stay keep their order, however the entries are
removed, exactly if at most one of them stands behind the first one that is removed. -/

namespace NoteVault

section Entries

variable {α : Type} {before : List (Text × α)} {name : Text}

theorem removeEntry_append (h : name ∉ before.map Prod.fst) (behind : List (Text × α)) :
    removeEntry name (before ++ behind) = before ++ removeEntry name behind := by
  induction before with
  | nil => rfl
  | cons e before ih =>
    rw [List.map_cons, List.mem_cons, not_or] at h
    rw [List.cons_append, removeEntry, if_neg (Ne.symm h.1), ih h.2, List.cons_append]

theorem removeEntry_cons_self (e last : Text × α) (between : List (Text × α)) :
    removeEntry e.1 (e :: (between ++ [last])) = last :: between := by
  simp [removeEntry]

end Entries

namespace Record

variable {α : Type} {r : Record α} {name key last : Text} {before between behind keys : List Text}

theorem mem_names_erase : key ∈ (r.erase name).names ↔ key ≠ name ∧ key ∈ r.names := by
  have hmem (e : Text × α) : e ∈ (r.erase name).entries ↔ e.1 ≠ name ∧ e ∈ r.entries :=
    mem_removeEntry r.nodup
  constructor
  · intro h
    obtain ⟨e, he, rfl⟩ := List.mem_map.mp h
    exact ⟨((hmem e).mp he).1, List.mem_map_of_mem ((hmem e).mp he).2⟩
  · rintro ⟨hne, h⟩
    obtain ⟨e, he, rfl⟩ := List.mem_map.mp h
    exact List.mem_map_of_mem ((hmem e).mpr ⟨hne, he⟩)

/-- The entries of a record whose names are known in front of a name, and what removing it does. -/
theorem exists_entries_erase (h : r.names = before ++ name :: behind) :
    ∃ es e fs, es.map Prod.fst = before ∧ e.1 = name ∧ fs.map Prod.fst = behind ∧
      (r.erase name).entries = es ++ removeEntry name (e :: fs) := by
  obtain ⟨es, gs, hr, rfl, hgs⟩ := List.map_eq_append_iff.mp h
  obtain ⟨e, fs, rfl, rfl, rfl⟩ := List.map_eq_cons_iff.mp hgs
  refine ⟨es, e, fs, rfl, rfl, rfl, ?_⟩
  have hnodup := r.nodup
  rw [hr, List.map_append] at hnodup
  have hbefore : e.1 ∉ es.map Prod.fst := fun hmem =>
    (List.nodup_append.mp hnodup).2.2 e.1 hmem e.1 List.mem_cons_self rfl
  change removeEntry e.1 r.entries = _
  rw [hr, removeEntry_append hbefore]

theorem names_erase_append (h : r.names = before ++ name :: (between ++ [last])) :
    (r.erase name).names = before ++ last :: between := by
  obtain ⟨es, e, fs, rfl, rfl, hfs, herase⟩ := exists_entries_erase h
  obtain ⟨ms, ls, rfl, rfl, hls⟩ := List.map_eq_append_iff.mp hfs
  obtain ⟨l, rfl, rfl⟩ := List.map_eq_singleton_iff.mp hls
  rw [names, herase, removeEntry_cons_self, List.map_append, List.map_cons]

theorem names_erase_concat (h : r.names = before ++ [name]) : (r.erase name).names = before := by
  obtain ⟨es, e, fs, rfl, rfl, hfs, herase⟩ := exists_entries_erase h
  obtain rfl := List.map_eq_nil_iff.mp hfs
  rw [names, herase, removeEntry, if_pos rfl]
  exact congrArg (List.map Prod.fst) (List.append_nil es)

/-- What stands in front of a removed name stays there. -/
theorem exists_names_erase (h : r.names = before ++ behind) (hname : name ∉ before) :
    ∃ rest, (r.erase name).names = before ++ rest := by
  by_cases hmem : name ∈ behind
  · obtain ⟨front, back, rfl⟩ := List.append_of_mem hmem
    rw [← List.append_assoc] at h
    cases back using List.reverseRecOn with
    | nil => exact ⟨front, names_erase_concat h⟩
    | append_singleton between last =>
      exact ⟨front ++ last :: between, (names_erase_append h).trans (List.append_assoc _ _ _)⟩
  · have hnot : name ∉ r.names := by
      rw [h, List.mem_append, not_or]
      exact ⟨hname, hmem⟩
    exact ⟨behind, by rw [erase_of_not_mem hnot, h]⟩

/-- A record without the entries of some names, which are removed one after the other. -/
def eraseAll (r : Record α) (keys : List Text) : Record α := keys.foldl erase r

theorem eraseAll_append (r : Record α) (keys more : List Text) :
    r.eraseAll (keys ++ more) = (r.eraseAll keys).eraseAll more := List.foldl_append

theorem mem_names_eraseAll : key ∈ (r.eraseAll keys).names ↔ key ∉ keys ∧ key ∈ r.names := by
  induction keys generalizing r with
  | nil => simp [eraseAll]
  | cons k ks ih =>
    refine (ih (r := r.erase k)).trans ?_
    rw [mem_names_erase, List.mem_cons, not_or]
    tauto

theorem eraseAll_of_disjoint (h : ∀ name ∈ keys, name ∉ r.names) : r.eraseAll keys = r := by
  induction keys with
  | nil => rfl
  | cons k ks ih =>
    have hk : r.erase k = r := erase_of_not_mem (h k List.mem_cons_self)
    change (r.erase k).eraseAll ks = r
    rw [hk]
    exact ih fun name hname => h name (List.mem_cons_of_mem k hname)

theorem filter_append_of_front (hfront : ∀ name ∈ before, name ∉ keys) :
    (before ++ behind).filter (isNoneOf keys) = before ++ behind.filter (isNoneOf keys) := by
  have hself := List.filter_eq_self.mpr fun name hname => isNoneOf_iff.mpr (hfront name hname)
  rw [List.filter_append, hself]

theorem names_eraseAll_perm (r : Record α) (keys : List Text) :
    (r.eraseAll keys).names.Perm (r.names.filter (isNoneOf keys)) := by
  refine (List.perm_ext_iff_of_nodup (r.eraseAll keys).nodup (r.nodup.filter _)).mpr fun key => ?_
  rw [List.mem_filter, isNoneOf_iff, and_comm]
  exact mem_names_eraseAll

/-- The names that stay and stand in front of all that are removed stay there, and behind them are
the others that stay, in some order. -/
theorem exists_names_eraseAll (h : r.names = before ++ behind) (hkeys : ∀ name ∈ before, name ∉ keys) :
    ∃ rest, (r.eraseAll keys).names = before ++ rest ∧ rest.Perm (behind.filter (isNoneOf keys)) := by
  have hfront : ∃ rest, (r.eraseAll keys).names = before ++ rest := by
    induction keys generalizing r behind with
    | nil => exact ⟨behind, h⟩
    | cons k ks ih =>
      have hk : k ∉ before := fun hmem => hkeys k hmem List.mem_cons_self
      obtain ⟨rest, hrest⟩ := exists_names_erase h hk
      exact ih hrest fun name hname => fun hmem => hkeys name hname (List.mem_cons_of_mem k hmem)
  obtain ⟨rest, hrest⟩ := hfront
  have hperm := r.names_eraseAll_perm keys
  rw [hrest, h, filter_append_of_front hkeys] at hperm
  exact ⟨rest, hrest, (List.perm_append_left_iff before).mp hperm⟩

/-- Whether at most one of the names that stay stands behind the first one that is removed. -/
def OneBehind (keys names : List Text) : Prop :=
  ((names.dropWhile (isNoneOf keys)).filter (isNoneOf keys)).length ≤ 1

instance (keys names : List Text) : Decidable (OneBehind keys names) :=
  inferInstanceAs (Decidable (_ ≤ _))

/-- The names in front of the first one that is removed, and those from there on. -/
theorem exists_front (keys names : List Text) :
    ∃ front behind, names = front ++ behind ∧ (∀ name ∈ front, name ∉ keys) ∧
      (∀ name ∈ behind.head?, name ∈ keys) ∧
      (OneBehind keys names ↔ (behind.filter (isNoneOf keys)).length ≤ 1) := by
  refine ⟨_, _, (List.takeWhile_append_dropWhile (p := isNoneOf keys)).symm,
    fun name hname => ?_, fun name hname => ?_, Iff.rfl⟩
  · exact isNoneOf_iff.mp (List.mem_takeWhile_imp hname)
  · have hhead := List.head?_dropWhile_not (isNoneOf keys) names
    rw [hname] at hhead
    simpa [isNoneOf] using hhead

theorem names_eraseAll_of_oneBehind (h : OneBehind keys r.names) :
    (r.eraseAll keys).names = r.names.filter (isNoneOf keys) := by
  obtain ⟨front, behind, hnames, hfront, -, hone⟩ := exists_front keys r.names
  obtain ⟨rest, hrest, hperm⟩ := exists_names_eraseAll hnames hfront
  have hbehind : rest = behind.filter (isNoneOf keys) := by
    have hlength := hone.mp h
    cases hlist : behind.filter (isNoneOf keys) with
    | nil => exact List.perm_nil.mp (hlist ▸ hperm)
    | cons x xs =>
      rw [hlist, List.length_cons] at hlength
      obtain rfl := List.eq_nil_of_length_eq_zero (by omega : xs.length = 0)
      exact List.perm_singleton.mp (hlist ▸ hperm)
  rw [hrest, hbehind, hnames, filter_append_of_front hfront]

/-- Two names side by side are removed, one after the other. The last two names move to their places,
and which of these comes first depends on which of those is removed first. -/
theorem names_erase_erase {a b : Text} (h : r.names = before ++ name :: key :: (between ++ [a, b])) :
    ((r.erase name).erase key).names = before ++ b :: a :: between ∧
      ((r.erase key).erase name).names = before ++ a :: b :: between := by
  constructor
  · have hfirst : (r.erase name).names = before ++ b :: (key :: (between ++ [a])) :=
      names_erase_append (by simpa using h)
    have hgap : (r.erase name).names = (before ++ [b]) ++ key :: (between ++ [a]) := by
      simpa using hfirst
    simpa using names_erase_append hgap
  · have hfirst : (r.erase key).names = (before ++ [name]) ++ b :: (between ++ [a]) :=
      names_erase_append (by simpa using h)
    have hgap : (r.erase key).names = before ++ name :: ((b :: between) ++ [a]) := by
      simpa using hfirst
    exact names_erase_append hgap

/-- The copies of one name can be removed last, and removing them is removing it once. -/
theorem exists_perm_append (hkey : key ∈ keys) :
    ∃ others copies, (others ++ copies).Perm keys ∧
      (∀ name, name ∈ others ↔ name ∈ keys ∧ name ≠ key) ∧
      ∀ r : Record α, r.eraseAll copies = r.erase key := by
  refine ⟨keys.filter (· ≠ key), keys.filter (· = key), ?_, fun name => by simp, fun r => ?_⟩
  · refine List.perm_append_comm.trans ?_
    simpa using List.filter_append_perm (· = key) keys
  · have hcopies : key ∈ keys.filter (· = key) := List.mem_filter.mpr ⟨hkey, decide_eq_true rfl⟩
    obtain ⟨k, ks, hks⟩ := List.exists_cons_of_ne_nil (List.ne_nil_of_mem hcopies)
    have hall : ∀ name ∈ k :: ks, name = key := fun name hname => by
      rw [← hks] at hname
      exact of_decide_eq_true (List.mem_filter.mp hname).2
    obtain rfl := hall k List.mem_cons_self
    rw [hks]
    change (r.erase k).eraseAll ks = r.erase k
    refine eraseAll_of_disjoint fun name hname hmem => ?_
    exact (mem_names_erase.mp hmem).1 (hall name (List.mem_cons_of_mem k hname))

section Others

variable {x : Text} {others : List Text}

/-- Two names side by side, and those in front of them, stay while some others are removed. Behind them
are at least as many names as stay there in the end. -/
theorem exists_names_eraseAll_others (h : r.names = before ++ key :: x :: behind)
    (hfront : ∀ name ∈ before, name ∉ keys) (hothers : others ⊆ keys) (hkey : key ∉ others)
    (hx : x ∉ others) :
    ∃ rest, (r.eraseAll others).names = before ++ key :: x :: rest ∧ (key :: x :: rest).Nodup ∧
      (behind.filter (isNoneOf keys)).length ≤ rest.length := by
  have hthere : ∀ name ∈ before ++ [key, x], name ∉ others := by
    intro name hname hmem
    simp only [List.mem_append, List.mem_cons, List.not_mem_nil, or_false] at hname
    obtain hname | rfl | rfl := hname
    · exact hfront name hname (hothers hmem)
    · exact hkey hmem
    · exact hx hmem
  have happend : r.names = (before ++ [key, x]) ++ behind := by
    rw [h, List.append_assoc]
    rfl
  obtain ⟨rest, hrest, hperm⟩ := exists_names_eraseAll happend hthere
  have hnames : (r.eraseAll others).names = before ++ key :: x :: rest := by
    rw [hrest, List.append_assoc]
    rfl
  have hnodup : (before ++ key :: x :: rest).Nodup := hnames ▸ (r.eraseAll others).nodup
  refine ⟨rest, hnames, (List.nodup_append.mp hnodup).2.1, ?_⟩
  rw [hperm.length_eq]
  refine (List.monotone_filter_right behind fun name hname => ?_).length_le
  rw [isNoneOf_iff] at hname ⊢
  exact fun hmem => hname (hothers hmem)

variable (h : r.names = before ++ key :: x :: behind) (hfront : ∀ name ∈ before, name ∉ keys)
  (hkey : key ∈ keys)

include h hfront hkey

/-- If the name behind a removed one stays, the order changes when the others are removed first. -/
theorem exists_misplaced_of_not_mem (hx : x ∉ keys)
    (hlength : 1 ≤ (behind.filter (isNoneOf keys)).length) :
    ∃ order, order.Perm keys ∧ (r.eraseAll order).names ≠ r.names.filter (isNoneOf keys) := by
  obtain ⟨others, copies, hperm, hothers, hcopies⟩ := exists_perm_append (α := α) hkey
  refine ⟨others ++ copies, hperm, fun horder => ?_⟩
  obtain ⟨rest, hrest, hnodup, hle⟩ := exists_names_eraseAll_others h hfront
    (fun name hname => ((hothers name).mp hname).1) (fun hmem => ((hothers key).mp hmem).2 rfl)
    fun hmem => hx ((hothers x).mp hmem).1
  obtain rfl | ⟨between, last, rfl⟩ := List.eq_nil_or_concat rest
  · exact absurd (hlength.trans hle) (by decide)
  have hne : last ≠ x := by
    rintro rfl
    simp at hnodup
  have hgap : (r.eraseAll others).names = before ++ key :: ((x :: between) ++ [last]) := by
    simpa using hrest
  rw [eraseAll_append, hcopies, names_erase_append hgap, h,
    filter_append_of_front hfront, List.filter_cons_of_neg (by simpa using hkey),
    List.filter_cons_of_pos (by simpa using hx)] at horder
  exact hne (List.cons.inj (List.append_cancel_left horder)).1

/-- If the name behind a removed one is removed too, one of the two orders in which they are removed
after all others changes the order of those that stay. -/
theorem exists_misplaced_of_mem (hx : x ∈ keys)
    (hlength : 2 ≤ (behind.filter (isNoneOf keys)).length) :
    ∃ order, order.Perm keys ∧ (r.eraseAll order).names ≠ r.names.filter (isNoneOf keys) := by
  have hne : x ≠ key := by
    rintro rfl
    have hnodup : (before ++ x :: x :: behind).Nodup := h ▸ r.nodup
    simp [List.nodup_append] at hnodup
  obtain ⟨most, copies, hperm, hmost, hcopies⟩ := exists_perm_append (α := α) hkey
  obtain ⟨others, copies', hperm', hothers, hcopies'⟩ :=
    exists_perm_append (α := α) ((hmost x).mpr ⟨hx, hne⟩)
  have hsub (name : Text) (hname : name ∈ others) : name ∈ keys ∧ name ≠ key :=
    (hmost name).mp ((hothers name).mp hname).1
  obtain ⟨rest, hrest, hnodup, hle⟩ := exists_names_eraseAll_others h hfront
    (fun name hname => (hsub name hname).1) (fun hmem => (hsub key hmem).2 rfl)
    fun hmem => ((hothers x).mp hmem).2 rfl
  obtain ⟨between, a, b, rfl⟩ : ∃ between a b, rest = between ++ [a, b] := by
    obtain rfl | ⟨front, b, rfl⟩ := List.eq_nil_or_concat rest
    · exact absurd (hlength.trans hle) (by decide)
    obtain rfl | ⟨between, a, rfl⟩ := List.eq_nil_or_concat front
    · exact absurd (hlength.trans hle) (by simp)
    · exact ⟨between, a, b, by simp⟩
  have hab : b ≠ a := by
    rintro rfl
    simp [List.nodup_append] at hnodup
  obtain ⟨hforth, hback⟩ := names_erase_erase hrest
  have hdone : (others ++ copies' ++ copies).Perm keys := (hperm'.append_right copies).trans hperm
  have hswap : (others ++ copies ++ copies').Perm (others ++ copies' ++ copies) := by
    rw [List.append_assoc, List.append_assoc]
    exact List.perm_append_comm.append_left others
  by_contra! hall
  have hlast := hall (others ++ copies' ++ copies) hdone
  have hfirst := hall (others ++ copies ++ copies') (hswap.trans hdone)
  rw [eraseAll_append, eraseAll_append, hcopies, hcopies'] at hlast hfirst
  have hsame := hforth.symm.trans ((hfirst.trans hlast.symm).trans hback)
  exact hab (List.cons.inj (List.append_cancel_left hsame)).1

end Others

/-- In whatever order some names are removed, those that stay keep their order, exactly if at most one
of these stands behind the first one that is removed. -/
theorem forall_perm_names_eraseAll_iff :
    (∀ order, order.Perm keys →
      (r.eraseAll order).names = r.names.filter (isNoneOf keys)) ↔ OneBehind keys r.names := by
  constructor
  · intro hall
    obtain ⟨front, behind, hnames, hfront, hhead, hone⟩ := exists_front keys r.names
    by_contra hnot
    rw [hone, not_le] at hnot
    rcases behind with - | ⟨key, - | ⟨x, behind⟩⟩
    · exact absurd hnot (by simp)
    · exact absurd hnot (by simpa using List.length_filter_le _ [key])
    have hkey : key ∈ keys := hhead key rfl
    rw [List.filter_cons_of_neg (by simpa using hkey)] at hnot
    have hmisplaced : ∃ order, order.Perm keys ∧
        (r.eraseAll order).names ≠ r.names.filter (isNoneOf keys) := by
      by_cases hx : x ∈ keys
      · rw [List.filter_cons_of_neg (by simpa using hx)] at hnot
        exact exists_misplaced_of_mem hnames hfront hkey hx hnot
      · rw [List.filter_cons_of_pos (by simpa using hx), List.length_cons] at hnot
        exact exists_misplaced_of_not_mem hnames hfront hkey hx (by omega)
    obtain ⟨order, horder, hne⟩ := hmisplaced
    exact hne (hall order horder)
  · intro h order horder
    have hsame := isNoneOf_perm horder
    have hone : OneBehind order r.names := by
      rw [OneBehind, hsame]
      exact h
    rw [names_eraseAll_of_oneBehind hone, hsame]

end Record

end NoteVault
