import Mathlib.Algebra.Order.Ring.Basic
import Mathlib.Algebra.Order.Ring.Nat
import Mathlib.Logic.Relation
import NoteVault.Proofs.Filter.Outcome

/-! Rewriting of filters: De Morgan's laws, double negations, and groups directly inside of groups of
their own kind. A step keeps the warnings too, since both sides look at the same statements in the same
order. Rewriting always ends, in a filter that negates statements only and has no group in a group of
its kind. -/

namespace NoteVault

namespace Outcome

/-- A conjunction of outcomes, or else a disjunction. -/
def group : Bool → List Outcome → Outcome
  | true, os => all os
  | false, os => any os

theorem negate_group (conj : Bool) (os : List Outcome) :
    (group conj os).negate = group (!conj) (os.map negate) := by
  have htwice : (os.map negate).map negate = os := by simp [negate_negate, Function.comp_def]
  cases conj with
  | true =>
    show (all os).negate = any (os.map negate)
    rw [any_eq_negate_all, htwice]
  | false =>
    show (any os).negate = all (os.map negate)
    rw [any_eq_negate_all, negate_negate]

theorem group_flatten (conj : Bool) (pre inner post : List Outcome) :
    group conj (pre ++ group conj inner :: post) = group conj (pre ++ inner ++ post) := by
  cases conj with
  | true => exact all_flatten pre inner post
  | false =>
    simp only [group, any_eq_negate_all, List.map_append, List.map_cons, negate_negate, all_flatten]

end Outcome

namespace Filter

variable {f g : Filter}

/-- A conjunction of filters, or else a disjunction. -/
def group : Bool → List Filter → Filter
  | true, gs => .all gs
  | false, gs => .any gs

theorem outcome_group (n : Note) (fs : Formulas) (conj : Bool) (gs : List Filter) :
    outcome n fs (group conj gs) = Outcome.group conj (gs.map (outcome n fs)) := by
  rw [← outcomes_eq_map]
  cases conj <;> rfl

/-- A law of rewriting, applied once and anywhere in a filter. -/
inductive Step : Filter → Filter → Prop
  | not_not (f : Filter) : Step (.not (.not f)) f
  | not_group (conj : Bool) (gs : List Filter) :
      Step (.not (group conj gs)) (group (!conj) (gs.map .not))
  | flatten (conj : Bool) (pre inner post : List Filter) :
      Step (group conj (pre ++ group conj inner :: post)) (group conj (pre ++ inner ++ post))
  | not {f g : Filter} (h : Step f g) : Step (.not f) (.not g)
  | member (conj : Bool) (pre post : List Filter) {f g : Filter} (h : Step f g) :
      Step (group conj (pre ++ f :: post)) (group conj (pre ++ g :: post))

abbrev Rewrites := Relation.ReflTransGen Step

theorem Step.outcome_eq (h : Step f g) (n : Note) (fs : Formulas) :
    outcome n fs g = outcome n fs f := by
  induction h with
  | not_not f => exact (Outcome.negate_negate (outcome n fs f)).symm
  | not_group conj gs =>
    rw [outcome, outcome_group, outcome_group, Outcome.negate_group, List.map_map, List.map_map]
    rfl
  | flatten conj pre inner post =>
    simp only [outcome_group, List.map_append, List.map_cons, Outcome.group_flatten]
  | not _ ih => rw [outcome, outcome, ih]
  | member conj pre post _ ih => simp only [outcome_group, List.map_append, List.map_cons, ih]

theorem Rewrites.outcome_eq (h : Rewrites f g) (n : Note) (fs : Formulas) :
    outcome n fs g = outcome n fs f := by
  induction h with
  | refl => rfl
  | tail _ hstep ih => exact (hstep.outcome_eq n fs).trans ih

/-! ### Rewriting ends -/

mutual

/-- A size that a negation squares, so that it is worth moving inwards. -/
def weight : Filter → Nat
  | .all gs => weights gs + 2
  | .any gs => weights gs + 2
  | .not f => weight f ^ 2
  | .statement _ => 2
  | .unsupported _ => 2

def weights : List Filter → Nat
  | [] => 0
  | f :: gs => weight f + weights gs

end

theorem weight_group (conj : Bool) (gs : List Filter) : (group conj gs).weight = weights gs + 2 := by
  cases conj <;> rfl

theorem weights_append (gs hs : List Filter) : weights (gs ++ hs) = weights gs + weights hs := by
  induction gs with
  | nil => simp [weights]
  | cons g gs ih => simp [weights, ih, Nat.add_assoc]

theorem one_lt_weight : (f : Filter) → 1 < f.weight
  | .all gs => by simp [weight]
  | .any gs => by simp [weight]
  | .not f => by
    have hf := one_lt_weight f
    rw [weight]
    exact Nat.one_lt_pow two_ne_zero hf
  | .statement _ => by simp [weight]
  | .unsupported _ => by simp [weight]

theorem weights_map_not_le (gs : List Filter) : weights (gs.map .not) ≤ weights gs ^ 2 := by
  induction gs with
  | nil => simp [weights]
  | cons g gs ih =>
    simp only [List.map_cons, weights, weight]
    have hsum := pow_add_pow_le (Nat.zero_le g.weight) (Nat.zero_le (weights gs)) two_ne_zero
    omega

theorem Step.weight_lt (h : Step f g) : g.weight < f.weight := by
  induction h with
  | not_not f =>
    calc f.weight < f.weight ^ 2 := lt_self_pow₀ (one_lt_weight f) one_lt_two
      _ < (f.weight ^ 2) ^ 2 := lt_self_pow₀ (one_lt_weight (.not f)) one_lt_two
  | not_group conj gs =>
    have hmembers := weights_map_not_le gs
    have hsum := pow_add_pow_le (Nat.zero_le (weights gs)) (Nat.zero_le 2) two_ne_zero
    rw [weight, weight_group, weight_group]
    omega
  | flatten conj pre inner post =>
    simp only [weight_group, weights_append, weights]
    omega
  | not _ ih =>
    rw [weight, weight]
    exact Nat.pow_lt_pow_left ih two_ne_zero
  | member conj pre post _ ih =>
    simp only [weight_group, weights_append, weights]
    omega

theorem wellFounded_step : WellFounded fun g f : Filter => Step f g :=
  Subrelation.wf Step.weight_lt (measure weight).wf

/-! ### Where it ends -/

/-- Negations stand at statements only, and no group stands directly in one of its kind. -/
inductive IsNormal : Filter → Prop
  | statement (t : Text) : IsNormal (.statement t)
  | unsupported (v : Value) : IsNormal (.unsupported v)
  | not_statement (t : Text) : IsNormal (.not (.statement t))
  | not_unsupported (v : Value) : IsNormal (.not (.unsupported v))
  | group (conj : Bool) {gs : List Filter} (hnormal : ∀ g ∈ gs, IsNormal g)
      (hflat : ∀ inner, group conj inner ∉ gs) : IsNormal (group conj gs)

theorem isNormal_group_or_step (conj : Bool) {gs : List Filter}
    (h : ∀ g ∈ gs, IsNormal g ∨ ∃ g', Step g g') :
    IsNormal (group conj gs) ∨ ∃ g', Step (group conj gs) g' := by
  by_cases hnormal : ∀ g ∈ gs, IsNormal g
  · by_cases hflat : ∀ inner, group conj inner ∉ gs
    · exact .inl (.group conj hnormal hflat)
    · obtain ⟨inner, hinner⟩ := not_forall_not.mp hflat
      obtain ⟨pre, post, rfl⟩ := List.append_of_mem hinner
      exact .inr ⟨_, .flatten conj pre inner post⟩
  · obtain ⟨g, hg, hother⟩ : ∃ g ∈ gs, ¬ IsNormal g := by simpa using hnormal
    obtain ⟨g', hstep⟩ := (h g hg).resolve_left hother
    obtain ⟨pre, post, rfl⟩ := List.append_of_mem hg
    exact .inr ⟨_, .member conj pre post hstep⟩

theorem isNormal_or_step : (f : Filter) → IsNormal f ∨ ∃ g, Step f g
  | .all gs => isNormal_group_or_step true fun g _ => isNormal_or_step g
  | .any gs => isNormal_group_or_step false fun g _ => isNormal_or_step g
  | .not (.all gs) => .inr ⟨_, .not_group true gs⟩
  | .not (.any gs) => .inr ⟨_, .not_group false gs⟩
  | .not (.not f) => .inr ⟨f, .not_not f⟩
  | .not (.statement t) => .inl (.not_statement t)
  | .not (.unsupported v) => .inl (.not_unsupported v)
  | .statement t => .inl (.statement t)
  | .unsupported v => .inl (.unsupported v)

theorem exists_rewrites_isNormal (f : Filter) : ∃ g, Rewrites f g ∧ IsNormal g := by
  induction f using wellFounded_step.induction with
  | h f ih =>
    rcases isNormal_or_step f with hnormal | ⟨g, hstep⟩
    · exact ⟨f, .refl, hnormal⟩
    · obtain ⟨g', hrewrites, hnormal⟩ := ih g hstep
      exact ⟨g', .head hstep hrewrites, hnormal⟩

/-- Rewriting reaches a filter with its negations at the leaves and its groups flat, and whatever it
reaches passes the same notes, with the same warnings in the same order. -/
theorem evaluate_eq_of_rewrites (n : Note) (fs : Formulas) (f : Filter) :
    (∃ g, Rewrites f g ∧ IsNormal g) ∧
      ∀ g, Rewrites f g → evaluate n fs (some g) = evaluate n fs (some f) :=
  ⟨exists_rewrites_isNormal f, fun _ h => h.outcome_eq n fs⟩

theorem evaluate_eq_of_rewrites_nested :
    let n := Note.ofMarkdown "A.md" [] {}
    let shape : Filter := .unsupported .null
    let ext : Filter := .statement "file.ext"
    let f : Filter := .any [.not shape, .not (.all [shape, .any [], .not ext])]
    let g : Filter := .any [.not shape, .not shape, .all [], ext]
    Rewrites f g ∧ IsNormal g ∧ evaluate n .empty (some g) = evaluate n .empty (some f) ∧
      evaluate n .empty (some g) = ⟨true, [unsupportedWarning, unsupportedWarning]⟩ := by
  intro n shape ext f g
  have hrewrites : Rewrites f g :=
    .head (.member false [.not shape] [] (.not_group true _)) <|
    .head (.flatten false [.not shape] _ []) <|
    .head (.member false [.not shape, .not shape] [.not (.not ext)] (.not_group false [])) <|
    .single (.member false [.not shape, .not shape, .all []] [] (.not_not ext))
  have hnormal : IsNormal g := by
    have hempty : IsNormal (.all []) := .group true (by simp) (by simp)
    have hmembers : ∀ h ∈ [.not shape, .not shape, .all [], ext], IsNormal h := by
      simp only [List.forall_mem_cons]
      exact ⟨.not_unsupported _, .not_unsupported _, hempty, .statement _, by simp⟩
    exact .group false hmembers (by simp [group, shape, ext])
  exact ⟨hrewrites, hnormal, (evaluate_eq_of_rewrites n .empty f).2 g hrewrites, by decide +kernel⟩

end Filter

end NoteVault
