import Mathlib.Tactic.SplitIfs
import NoteVault.Proofs.Query.Paging
import NoteVault.Proofs.Query.Session

/-! The number of rows of a page and the number of the page, against the numbers that are asked for.
A bound of the settings is compared as 64 bits with a sign hold it, so that one of 2^63 or more is
below every number and takes its place. -/

namespace NoteVault.Query

/-- The number from 1 to a bound that is nearest to a number. -/
def nearest (n : Int) (top : Nat) : Int := max 1 (min n top)

/-- Whether a bound has the effect of one on a number: it is small enough to be compared, or it is not
compared, or it is what remains of the number. -/
def Bounds (top : Nat) (n : Int) : Prop := top < 0x8000000000000000 ∨ n < 1 ∨ top ≤ n

/-- What is shown for a number that is asked for under a bound. -/
structure Clamped (shown : Nat) (asked : Int) (top : Nat) : Prop where
  nearest_iff : (shown : Int) = nearest asked top ↔ Bounds top asked
  eq_bound : ¬Bounds top asked → shown = top

/-- How many rows a request asks for, itself or through its view, or else the settings. -/
def askedLimit (s : Settings) (view : Option View) (r : Request) : Int :=
  (r.limit.or ((view.bind View.limit).map Int.ofNat)).getD s.defaultLimit

/-- The page that a request asks for. -/
def askedPage (r : Request) : Int := r.page.getD 1

section Clamp

variable {n m : Int} {top : Nat}

theorem wrapped_of_lt (h : top < 0x8000000000000000) : wrapped top = top := bmod_natCast (by omega)

theorem wrapped_neg (h : 0x8000000000000000 ≤ top) (h' : top < 0x10000000000000000) :
    wrapped top < 0 := by
  unfold wrapped Int.bmod
  dsimp only
  split_ifs <;> omega

theorem clamp_of_lt_one (h : n < 1) (top : Nat) : clamp n top = 1 := if_pos h

theorem clamp_of_small (h : 1 ≤ top) (htop : top < 0x8000000000000000) :
    (clamp n top : Int) = nearest n top := by
  rw [clamp, wrapped_of_lt htop, nearest]
  split_ifs <;> omega

theorem clamp_of_large (hn : 1 ≤ n) (h : 0x8000000000000000 ≤ top)
    (h' : top < 0x10000000000000000) : clamp n top = top := by
  have hneg := wrapped_neg h h'
  rw [clamp, if_neg (by omega), if_pos (by omega)]

/-- The number that is clamped is the one that is asked for, or the largest one of 64 bits with a
sign in place of a larger one. -/
theorem clamped_clamp (hn : n = m ∨ n = min m 0x7fffffffffffffff) (h : 1 ≤ top)
    (h' : top < 0x10000000000000000) : Clamped (clamp n top) m top := by
  by_cases htop : top < 0x8000000000000000
  · refine ⟨iff_of_true ?_ (.inl htop), fun hbounds => absurd (.inl htop) hbounds⟩
    rw [clamp_of_small h htop, nearest, nearest]
    omega
  by_cases hone : m < 1
  · refine ⟨iff_of_true ?_ (.inr (.inl hone)), fun hbounds => absurd (.inr (.inl hone)) hbounds⟩
    rw [clamp_of_lt_one (by omega), nearest]
    omega
  · have hlarge : clamp n top = top := clamp_of_large (by omega) (by omega) h'
    refine ⟨?_, fun _ => hlarge⟩
    rw [hlarge, nearest, Bounds]
    omega

end Clamp

theorem exists_limit_eq_clamp (s : Settings) (view : Option View) (r : Request) :
    ∃ n, limit s view r = clamp n s.maxLimit ∧
      (n = askedLimit s view r ∨ n = min (askedLimit s view r) 0x7fffffffffffffff) := by
  refine ⟨_, rfl, ?_⟩
  unfold askedLimit
  cases r.limit with
  | some n => exact .inl rfl
  | none =>
    cases view.bind View.limit with
    | some n => exact .inr rfl
    | none => exact .inr rfl

section Answer

variable [Sorting.Sorter] {v : Vault} {cache : Snapshots} {settings : Settings} {base : Text}
  {r : Request} {now : Int} {a : Response}

/-- However a query is answered, the length and the number of the page are those of its request. -/
theorem exists_respond_of_run (h : (run v cache settings base r now).1 = .ok a) :
    ∃ s notes ms source total rows, v.getSchema (Path.ofBase base) = .ok s ∧
      a = respond settings r (selection s notes r ms) source total rows := by
  obtain ⟨sel, hsel⟩ := exists_select_of_run h
  obtain ⟨s, notes, ms, hs, -, -, rfl⟩ := exists_of_select hsel
  cases hlive : r.evaluate && settings.liveEngine with
  | false =>
    rw [run_eq_of_not_live hlive, hsel] at h
    exact ⟨s, notes, ms, _, _, _, hs, (Except.ok.inj h).symm⟩
  | true =>
    rw [run_fst_of_live hlive, hsel] at h
    exact ⟨s, notes, ms, _, _, _, hs, (Except.ok.inj h).symm⟩

/-- The length and the number of the page that an answer shows are the nearest ones that the settings
allow to those that are asked for, exactly if the settings bound these. Otherwise it shows the bound. -/
theorem answer_nearest_iff (hlimit : 1 ≤ settings.maxLimit)
    (hlimit' : settings.maxLimit < 0x10000000000000000) (hpage : 1 ≤ settings.maxPage)
    (hpage' : settings.maxPage < 0x10000000000000000)
    (h : (run v cache settings base r now).1 = .ok a) :
    ∃ s, v.getSchema (Path.ofBase base) = .ok s ∧
      Clamped a.limit (askedLimit settings (s.view? r.view) r) settings.maxLimit ∧
      Clamped a.page (askedPage r) settings.maxPage := by
  obtain ⟨s, notes, ms, source, total, rows, hs, rfl⟩ := exists_respond_of_run h
  obtain ⟨n, hn, hasked⟩ := exists_limit_eq_clamp settings (s.view? r.view) r
  refine ⟨s, hs, ?_, clamped_clamp (.inl rfl) hpage hpage'⟩
  change Clamped (limit settings (s.view? r.view) r) _ _
  rw [hn]
  exact clamped_clamp hasked hlimit hlimit'

end Answer

/-- Settings with a bound of pages as usual, and one of rows that is negative as 64 bits with a sign. -/
def signBound : Settings := { maxLimit := 0x8000000000000000, maxPage := 5 }

theorem answer_nearest_iff_ninthPage :
    ∃ a s, (run oneNote .empty signBound "T" { page := some 9 } 0).1 = .ok a ∧
      oneNote.getSchema (Path.ofBase "T") = .ok s ∧
      Clamped a.limit (askedLimit signBound (s.view? none) { page := some 9 }) 0x8000000000000000 ∧
      Clamped a.page 9 5 ∧ a.page = 5 := by
  obtain ⟨a, ha⟩ : ∃ a, (run oneNote .empty signBound "T" { page := some 9 } 0).1 = .ok a :=
    exists_of_isOk (by decide +kernel)
  obtain ⟨s, hs, hlimit, hpage⟩ := answer_nearest_iff (by decide) (by decide) (by decide) (by decide) ha
  have hpage : Clamped a.page 9 5 := hpage
  have hnearest : (a.page : Int) = nearest 9 5 := hpage.nearest_iff.mpr (.inl (by decide))
  exact ⟨a, s, ha, hs, hlimit, hpage, Int.ofNat.inj (hnearest.trans (by decide))⟩

/-- A page of twenty rows is asked for and allowed, and yet the page has as many as the bound. -/
theorem limit_signBound :
    (run oneNote .empty signBound "T" {} 0).1.toOption.map Response.limit =
        some 0x8000000000000000 ∧
      (oneNote.getSchema (Path.ofBase "T")).toOption.map (fun s =>
        nearest (askedLimit signBound (s.view? none) {}) signBound.maxLimit) = some 20 := by
  refine ⟨?_, ?_⟩
  · decide +kernel
  · decide +kernel

end NoteVault.Query
