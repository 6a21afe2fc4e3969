import Mathlib.Tactic.SplitIfs
import NoteVault.Proofs.Repeats
import NoteVault.Proofs.Upsert.Phase
import NoteVault.Proofs.Value.Record

/-! The metadata that an upsert asks for, and those that its edits make. -/

namespace NoteVault

/-- Whether a value is the wanted one, or one that upserts take for equal to it. -/
def Value.Matches (v wanted : Value) : Prop := v = wanted ∨ v.same wanted = true

/-- Whether some metadata have the keys and values of other ones. -/
def Frontmatter.Matches (m wanted : Frontmatter) : Prop :=
  ∀ key, Option.Rel Value.Matches (m.get? key) (wanted.get? key)

theorem Frontmatter.Matches.refl (m : Frontmatter) : m.Matches m := by
  intro key
  cases m.get? key with
  | none => exact .none
  | some v => exact .some (.inl rfl)

namespace Upsert

variable {o : Upsert} {before after : Frontmatter}

/-- Whether metadata are what an upsert of other metadata is to leave. -/
structure Leaves (o : Upsert) (before after : Frontmatter) : Prop where
  set : ∀ key wanted, o.set.get? key = some wanted → ∃ v, after.get? key = some v ∧ v.Matches wanted
  unset : ∀ key ∈ o.unset, after.get? key = none
  other : ∀ key, o.set.get? key = none → key ∉ o.unset →
    Option.Rel Value.Matches (after.get? key) (before.get? key)

theorem get?_setAll {es : List (Text × Value)} (h : (es.map Prod.fst).Nodup) (m : Frontmatter)
    (key : Text) :
    (Edit.applyAll (es.map fun (key, v) => .set key v) m).get? key =
      (es.lookup key).or (m.get? key) := by
  induction es generalizing m with
  | nil => rfl
  | cons e es ih =>
    obtain ⟨l, v⟩ := e
    obtain ⟨hl, hes⟩ := List.nodup_cons.mp h
    have hstep := ih hes (m.insert l v)
    rw [Record.get?_insert] at hstep
    rw [lookup_cons_eq_ite]
    refine hstep.trans ?_
    by_cases hkey : key = l
    · rw [if_pos hkey, if_pos hkey, hkey, lookup_eq_none_of_not_mem hl]
      rfl
    · rw [if_neg hkey, if_neg hkey]

theorem get?_unsetAll (keys : List Text) (m : Frontmatter) (key : Text) :
    (Edit.applyAll (keys.map .unset) m).get? key = if key ∈ keys then none else m.get? key := by
  induction keys generalizing m with
  | nil => simp [Edit.applyAll]
  | cons k ks ih =>
    have hstep := ih (m.erase k)
    rw [Record.get?_erase] at hstep
    refine hstep.trans ?_
    by_cases hkey : key = k <;> simp [hkey]

theorem applyAll_edits (o : Upsert) (m : Frontmatter) :
    Edit.applyAll o.edits m = Edit.applyAll (o.unset.map .unset)
      (Edit.applyAll (o.set.entries.map fun (key, v) => .set key v) m) := by
  rw [Edit.applyAll, edits, List.foldl_append]
  rfl

theorem get?_applyAll_edits (o : Upsert) (m : Frontmatter) (key : Text) :
    (Edit.applyAll o.edits m).get? key =
      if key ∈ o.unset then none else (o.set.get? key).or (m.get? key) := by
  rw [applyAll_edits, get?_unsetAll, get?_setAll o.set.nodup]
  rfl

theorem not_mem_unset_of_check {path key : Text} {v : Value} (hcheck : o.check = .ok path)
    (hset : o.set.get? key = some v) : key ∉ o.unset := by
  intro hunset
  obtain ⟨target, -, hrest⟩ := exists_of_bind_eq_ok hcheck
  have hname : key ∈ o.set.names := List.mem_map.mpr ⟨_, Record.get?_eq_some_iff.mp hset, rfl⟩
  have hfind : (o.set.names.find? o.unset.contains).isSome = true :=
    List.find?_isSome.mpr ⟨key, hname, List.contains_iff_mem.mpr hunset⟩
  obtain ⟨both, hboth⟩ := Option.isSome_iff_exists.mp hfind
  rw [hboth] at hrest
  split_ifs at hrest
  exact (nomatch hrest)

theorem leaves_iff {path : Text} (hcheck : o.check = .ok path) :
    o.Leaves before after ↔ after.Matches (Edit.applyAll o.edits before) := by
  constructor
  · intro h key
    rw [get?_applyAll_edits]
    split_ifs with hunset
    · rw [h.unset key hunset]
      exact .none
    · cases hset : o.set.get? key with
      | none => exact h.other key hset hunset
      | some wanted =>
        obtain ⟨v, hv, hmatches⟩ := h.set key wanted hset
        rw [hv]
        exact .some hmatches
  · intro h
    refine ⟨fun key wanted hset => ?_, fun key hunset => ?_, fun key hset hunset => ?_⟩
    · have hkey := h key
      rw [get?_applyAll_edits, if_neg (not_mem_unset_of_check hcheck hset), hset, Option.some_or] at hkey
      cases hafter : after.get? key with
      | none =>
        rw [hafter] at hkey
        cases hkey
      | some v =>
        rw [hafter] at hkey
        cases hkey with
        | some hmatches => exact ⟨v, rfl, hmatches⟩
    · have hkey := h key
      rw [get?_applyAll_edits, if_pos hunset] at hkey
      cases hafter : after.get? key with
      | none => rfl
      | some v =>
        rw [hafter] at hkey
        cases hkey
    · have hkey := h key
      rwa [get?_applyAll_edits, if_neg hunset, hset, Option.none_or] at hkey

/-- Of the keys to be unset those are added that are there, each once. -/
theorem foldl_unset (m : Frontmatter) (keys done : List Text) :
    keys.foldl (fun done key => if m.has key && !done.contains key then done ++ [key] else done)
      done = done ++ keys.eraseDups.filter fun key => m.has key && !done.contains key := by
  induction keys using List.reverseRecOn with
  | nil => simp
  | append_singleton keys key ih =>
    rw [List.foldl_append, ih, eraseDups_concat]
    by_cases hmem : key ∈ keys <;> by_cases hhas : m.has key = true <;>
      by_cases hdone : key ∈ done <;> simp [hmem, hhas, hdone]

theorem forall_of_unchanged {m : Frontmatter} {keys done : List Text}
    (h : keys.foldl (fun done key => if m.has key && !done.contains key then done ++ [key] else done)
      done = []) : done = [] ∧ ∀ key ∈ keys, m.get? key = none := by
  rw [foldl_unset, List.append_eq_nil_iff, List.filter_eq_nil_iff] at h
  obtain ⟨rfl, hkeys⟩ := h
  refine ⟨rfl, fun key hkey => ?_⟩
  simpa [Record.has] using hkeys key (List.mem_eraseDups.mpr hkey)

/-- An upsert that changes no key of some metadata leaves them as they are. -/
theorem leaves_of_unchanged {m : Frontmatter} (h : o.changed m = []) : o.Leaves m m := by
  obtain ⟨hset, hunset⟩ := forall_of_unchanged h
  refine ⟨fun key wanted hwanted => ?_, hunset, fun key _ _ => Frontmatter.Matches.refl m key⟩
  have hmem := Record.get?_eq_some_iff.mp hwanted
  have hold : isNew m (key, wanted) = false := by
    rw [Bool.eq_false_iff]
    intro hnew
    have hfilter := List.map_eq_nil_iff.mp hset
    exact List.not_mem_nil (hfilter ▸ List.mem_filter.mpr ⟨hmem, hnew⟩)
  unfold isNew at hold
  dsimp only at hold
  cases hget : m.get? key with
  | none =>
    rw [hget] at hold
    contradiction
  | some v =>
    rw [hget] at hold
    exact ⟨v, rfl, .inr (by simpa using hold)⟩

end Upsert

end NoteVault
