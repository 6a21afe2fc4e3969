import NoteVault.Proofs.Yaml.Stream
import NoteVault.Yaml.Data

/-!
A node never takes the beginning of a document. So content in front of one is no document: a text
that begins with content and has the mark of a document on a later line holds no data.
-/

namespace NoteVault.Yaml

namespace Node

variable {α β : Type} {hs : Handles} {ts us : List Token} {t : Token} {x : Option (α × List Token)}

/-- Whether a reader of tokens leaves the beginnings of documents among them. -/
def Spares (ts : List Token) (x : Option (α × List Token)) : Prop :=
  ∀ r ∈ x, .documentStart ∈ ts → .documentStart ∈ r.2

theorem spares_none : Spares ts (none : Option (α × List Token)) := fun _ h => by contradiction

theorem spares_some (a : α) (ts : List Token) : Spares ts (some (a, ts)) := by
  rintro r hr hstart
  obtain rfl := Option.some.inj hr
  exact hstart

namespace Spares

theorem of_mem (hmem : .documentStart ∈ ts → .documentStart ∈ us) (h : Spares us x) : Spares ts x :=
  fun r hr hstart => h r hr (hmem hstart)

theorem cons (ht : t ≠ .documentStart) (h : Spares ts x) : Spares (t :: ts) x :=
  h.of_mem fun hstart => (List.mem_cons.mp hstart).resolve_left ht.symm

theorem behind {a : α} {y : Option (β × List Token)} (h : Spares ts x) (hx : x = some (a, us))
    (hy : Spares us y) : Spares ts y :=
  hy.of_mem (h _ hx)

theorem map {f : α × List Token → β × List Token} (h : Spares ts x) (hf : ∀ r, (f r).2 = r.2) :
    Spares ts (x.map f) := by
  rintro r hr hstart
  obtain ⟨r, hx, rfl⟩ := Option.map_eq_some_iff.mp hr
  rw [hf]
  exact h r hx hstart

end Spares

theorem spares_tag {tag : Option β} {f : β → α × List Token} (hf : ∀ b, (f b).2 = ts) :
    Spares ts (tag.map f) := by
  rintro r hr hstart
  obtain ⟨b, -, rfl⟩ := Option.map_eq_some_iff.mp hr
  rwa [hf]

theorem spares_props? (hs : Handles) (ts : List Token) : Spares ts (props? hs ts) := by
  fun_cases props? hs ts with
  | case1 a h t ts => exact .cons nofun (.cons nofun (spares_tag fun _ => rfl))
  | case2 h t a ts => exact .cons nofun (.cons nofun (spares_tag fun _ => rfl))
  | case3 a ts => exact .cons nofun (spares_some _ ts)
  | case4 h t ts => exact .cons nofun (spares_tag fun _ => rfl)
  | case5 ts => exact spares_some _ ts

/-- The items of a flow collection stand behind its beginning or behind an entry mark. -/
theorem mem_of_flowEntry {isFirst : Bool} (h : (if isFirst then some ts else match ts with
      | .flowEntry :: ts => some ts
      | _ => none) = some us) (hstart : .documentStart ∈ ts) : .documentStart ∈ us := by
  split_ifs at h
  · exact Option.some.inj h ▸ hstart
  · split at h
    · exact Option.some.inj h ▸ (List.mem_cons.mp hstart).resolve_left nofun
    · contradiction

/-- If a key is left out, the token in its place begins no document. -/
theorem Spares.unlessLeftOut {ends : List Token} (hends : .documentStart ∉ ends) (a : α)
    (h : Spares ts x) : Spares ts (if leftOut ends ts then some (a, ts.drop 1) else x) := by
  split_ifs with hout
  · cases ts with
    | nil => exact spares_some a []
    | cons t ts =>
      refine .cons ?_ (spares_some a ts)
      rintro rfl
      exact hends (by simpa [leftOut] using hout)
  · exact h

mutual

theorem spares_read? (hs : Handles) (fuel : Nat) (block unindented : Bool) (ts : List Token) :
    Spares ts (read? hs fuel block unindented ts) := by
  have hprops := spares_props? hs ts
  fun_cases read? hs fuel block unindented ts with
  | case1 => exact spares_none
  | case2 _ _ _ name ts => exact .cons nofun (spares_some _ ts)
  | case3 => exact spares_none
  | case4 fuel _ _ _ p us hp =>
    exact hprops.behind hp (.map (spares_unindentedItems? hs fuel _) fun _ => rfl)
  | case5 fuel _ _ _ _ p plain text us hp =>
    exact hprops.behind hp (.cons nofun (spares_some _ us))
  | case6 fuel _ _ _ _ p us hp =>
    exact hprops.behind hp (.cons nofun (.map (spares_flowItems? hs fuel true us) fun _ => rfl))
  | case7 fuel _ _ _ _ p us hp =>
    exact hprops.behind hp (.cons nofun (.map (spares_flowEntries? hs fuel true us) fun _ => rfl))
  | case8 fuel _ _ _ p us hp =>
    exact hprops.behind hp (.cons nofun (.map (spares_blockItems? hs fuel us) fun _ => rfl))
  | case9 fuel _ _ _ p us hp =>
    exact hprops.behind hp (.cons nofun (.map (spares_blockEntries? hs fuel us) fun _ => rfl))
  | case10 => exact spares_none
  | case11 _ _ _ _ _ p us _ _ _ _ _ _ _ hp => exact hprops.behind hp (spares_some _ us)
termination_by fuel

theorem spares_readUnless? (hs : Handles) (fuel : Nat) (block unindented : Bool)
    (ends ts : List Token) : Spares ts (readUnless? hs fuel block unindented ends ts) := by
  fun_cases readUnless? hs fuel block unindented ends ts with
  | case1 => exact spares_none
  | case2 => exact spares_some blank ts
  | case3 fuel => exact spares_read? hs fuel block unindented ts
termination_by fuel

theorem spares_blockItems? (hs : Handles) (fuel : Nat) (ts : List Token) :
    Spares ts (blockItems? hs fuel ts) := by
  fun_cases blockItems? hs fuel ts with
  | case1 => exact spares_none
  | case2 => exact spares_none
  | case3 fuel ts v us hread =>
    exact .cons nofun ((spares_readUnless? hs fuel _ _ _ ts).behind hread
      (.map (spares_blockItems? hs fuel us) fun _ => rfl))
  | case4 _ ts => exact .cons nofun (spares_some _ ts)
  | case5 => exact spares_none
termination_by fuel

theorem spares_unindentedItems? (hs : Handles) (fuel : Nat) (ts : List Token) :
    Spares ts (unindentedItems? hs fuel ts) := by
  fun_cases unindentedItems? hs fuel ts with
  | case1 => exact spares_none
  | case2 => exact spares_none
  | case3 fuel ts v us hread =>
    exact .cons nofun ((spares_readUnless? hs fuel _ _ _ ts).behind hread
      (.map (spares_unindentedItems? hs fuel us) fun _ => rfl))
  | case4 => exact spares_some [] ts
termination_by fuel

theorem spares_blockEntries? (hs : Handles) (fuel : Nat) (ts : List Token) :
    Spares ts (blockEntries? hs fuel ts) := by
  fun_cases blockEntries? hs fuel ts with
  | case1 => exact spares_none
  | case2 => exact spares_none
  | case3 => exact spares_none
  | case4 fuel ts k us hkey v ws hvalue =>
    refine .cons nofun ((spares_readUnless? hs fuel _ _ _ ts).behind hkey ?_)
    exact (spares_blockValue? hs fuel us).behind hvalue
      (.map (spares_blockEntries? hs fuel ws) fun _ => rfl)
  | case5 _ ts => exact .cons nofun (spares_some _ ts)
  | case6 => exact spares_none
termination_by fuel

theorem spares_blockValue? (hs : Handles) (fuel : Nat) (ts : List Token) :
    Spares ts (blockValue? hs fuel ts) := by
  fun_cases blockValue? hs fuel ts with
  | case1 => exact spares_none
  | case2 fuel ts => exact .cons nofun (spares_readUnless? hs fuel _ _ _ ts)
  | case3 => exact spares_some blank ts
termination_by fuel

theorem spares_flowItems? (hs : Handles) (fuel : Nat) (isFirst : Bool) (ts : List Token) :
    Spares ts (flowItems? hs fuel isFirst ts) := by
  fun_cases flowItems? hs fuel isFirst ts with
  | case1 => exact spares_none
  | case2 _ _ ts => exact .cons nofun (spares_some _ ts)
  | case3 => exact spares_none
  | case4 _ _ _ _ us hentry => exact .of_mem (mem_of_flowEntry hentry) (.cons nofun (spares_some _ us))
  | case5 => exact spares_none
  | case6 fuel _ _ _ us hentry v ws hpair =>
    refine .of_mem (mem_of_flowEntry hentry) (.cons nofun ?_)
    exact (spares_flowPair? hs fuel us).behind hpair
      (.map (spares_flowItems? hs fuel false ws) fun _ => rfl)
  | case7 => exact spares_none
  | case8 fuel _ _ _ us _ _ hentry v ws hread =>
    refine .of_mem (mem_of_flowEntry hentry) ?_
    exact (spares_read? hs fuel _ _ us).behind hread
      (.map (spares_flowItems? hs fuel false ws) fun _ => rfl)
termination_by fuel

theorem spares_flowPair? (hs : Handles) (fuel : Nat) (ts : List Token) :
    Spares ts (flowPair? hs fuel ts) := by
  fun_cases flowPair? hs fuel ts with
  | case1 => exact spares_none
  | case2 => exact spares_none
  | case3 fuel _ k us hkey =>
    refine (Spares.unlessLeftOut (by decide) blank (spares_read? hs fuel _ _ ts)).behind hkey ?_
    refine .cons nofun ?_
    exact .map (spares_readUnless? hs fuel _ _ _ us) fun _ => rfl
  | case4 fuel _ k us _ hkey =>
    refine (Spares.unlessLeftOut (by decide) blank (spares_read? hs fuel _ _ ts)).behind hkey ?_
    exact spares_some _ us
termination_by fuel

theorem spares_flowEntries? (hs : Handles) (fuel : Nat) (isFirst : Bool) (ts : List Token) :
    Spares ts (flowEntries? hs fuel isFirst ts) := by
  fun_cases flowEntries? hs fuel isFirst ts with
  | case1 => exact spares_none
  | case2 _ _ ts => exact .cons nofun (spares_some _ ts)
  | case3 => exact spares_none
  | case4 _ _ _ _ us hentry => exact .of_mem (mem_of_flowEntry hentry) (.cons nofun (spares_some _ us))
  | case5 => exact spares_none
  | case6 => exact spares_none
  | case7 fuel _ _ _ us hentry k ws hkey v xs hvalue =>
    refine .of_mem (mem_of_flowEntry hentry) (.cons nofun ?_)
    refine (spares_readUnless? hs fuel _ _ _ us).behind hkey ?_
    exact (spares_flowValue? hs fuel ws).behind hvalue
      (.map (spares_flowEntries? hs fuel false xs) fun _ => rfl)
  | case8 => exact spares_none
  | case9 fuel _ _ _ us _ _ hentry k ws hread =>
    refine .of_mem (mem_of_flowEntry hentry) ?_
    exact (spares_read? hs fuel _ _ us).behind hread
      (.map (spares_flowEntries? hs fuel false ws) fun _ => rfl)
termination_by fuel

theorem spares_flowValue? (hs : Handles) (fuel : Nat) (ts : List Token) :
    Spares ts (flowValue? hs fuel ts) := by
  fun_cases flowValue? hs fuel ts with
  | case1 => exact spares_none
  | case2 fuel ts => exact .cons nofun (spares_readUnless? hs fuel _ _ _ ts)
  | case3 => exact spares_some blank ts
termination_by fuel

end

theorem directives?_of_isContent (ht : t.isContent = true) (versioned : Bool) (hs : Handles) :
    directives? versioned hs (t :: ts) = some (hs, t :: ts) := by
  cases t with
  | version => contradiction
  | tagHandle => contradiction
  | _ => rfl

/-- Content is no document if a document begins behind it. -/
theorem ofTokens?_eq_none (hopens : ∃ t ∈ ts.head?, t.isContent = true)
    (hstart : .documentStart ∈ ts) : ofTokens? ts = none := by
  obtain ⟨t, ht, hcontent⟩ := hopens
  obtain ⟨us, rfl⟩ := List.head?_eq_some_iff.mp ht
  have hfirst : t ≠ .documentStart := by
    rintro rfl
    contradiction
  have hexplicit : (some t == some Token.documentStart) = false := by simpa using hfirst
  unfold ofTokens?
  rw [directives?_of_isContent hcontent]
  simp only [List.head?_cons, bne_self_eq_false, Bool.false_or, hexplicit, Bool.not_false, if_true]
  split
  · next node rest hread =>
    have hmem := spares_read? _ _ _ _ _ _ hread hstart
    rw [if_neg]
    intro hover
    exact absurd (List.all_eq_true.mp hover _ hmem) (by decide)
  · rfl

end Node

open Print (isBreak)

theorem load?_eq_none {c e : Char} {s t : Text} (hc : isContentHead c = true)
    (hsame : isBreak c = false) (hstart : ¬("---" : Text) <+: c :: (s ++ e :: ("---" ++ t)))
    (he : isBreak e = true) (hline : e ≠ '\n') (ht : t = [] ∨ t.head? = some '\n') :
    load? (c :: (s ++ e :: ("---" ++ t))) = none := by
  have hparse : parse? (c :: (s ++ e :: ("---" ++ t))) = none := by
    rw [parse?]
    cases h : tokens? (c :: (s ++ e :: ("---" ++ t))) with
    | none => rfl
    | some ts =>
      obtain ⟨hopens, hmem⟩ := documentStart_mem_tokens? hc hsame hstart he hline ht h
      exact Node.ofTokens?_eq_none hopens hmem
  rw [load?, hparse]

end NoteVault.Yaml
