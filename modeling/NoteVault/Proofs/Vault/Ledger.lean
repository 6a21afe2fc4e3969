import NoteVault.Proofs.Index
import NoteVault.Proofs.Json.Reading
import NoteVault.Proofs.Value.Decode
import NoteVault.Vault.Ledger

/-! A ledger is read back from its file as long as its times fit into 64 bits, and a note that is
written gets a later time than it had. -/

namespace NoteVault

namespace Stat

/-- Both times fit into 64 bits. -/
structure Fits (s : Stat) : Prop where
  ctime : isSigned64 s.ctime = true
  mtime : isSigned64 s.mtime = true

/-- The part of a document that the times of a note are written as. -/
def node (s : Stat) : Json.Node :=
  .record [(some "ctime".toList, .number (some (.int s.ctime))),
    (some "mtime".toList, .number (some (.int s.mtime)))]

theorem isInteger64_of_isSigned64 {n : Int} (h : isSigned64 n = true) : isInteger64 n = true := by
  rw [isInteger64, h, Bool.true_or]

theorem reads_toValue {s : Stat} (h : s.Fits) (depth : Nat) :
    Json.Reads (Json.indented depth s.toValue) s.node := by
  have htimes : ∀ m ∈ [("ctime".toList, s.ctime), ("mtime".toList, s.mtime)],
      Json.Reads (Json.indented (depth + 1) (.int m.2)) (.number (some (.int m.2))) := by
    intro m hm
    simp only [List.mem_cons, List.not_mem_nil, or_false] at hm
    rcases hm with rfl | rfl
    · exact Json.reads_ofInt (isInteger64_of_isSigned64 h.ctime)
    · exact Json.reads_ofInt (isInteger64_of_isSigned64 h.mtime)
  exact Json.reads_record Prod.fst (fun m => .int m.2) (fun m => .number (some (.int m.2))) htimes

theorem ofNode?_node {s : Stat} (h : s.Fits) : ofNode? s.node = some s := by
  have hfields : Json.Node.fields? ["ctime", "mtime"] s.node =
      some [("ctime".toList, .int s.ctime), ("mtime".toList, .int s.mtime)] := rfl
  have hctime : Decode.required ["ctime"] Decode.int?
      [("ctime".toList, .int s.ctime), ("mtime".toList, .int s.mtime)] = some s.ctime :=
    if_pos h.ctime
  have hmtime : Decode.required ["mtime"] Decode.int?
      [("ctime".toList, .int s.ctime), ("mtime".toList, .int s.mtime)] = some s.mtime :=
    if_pos h.mtime
  unfold ofNode?
  rw [hfields]
  simp only [Option.bind_eq_bind, Option.bind_some, hctime, hmtime]
  rfl

theorem isSigned64_of_required {names : List Text} {fs : Decode.Fields} {n : Int}
    (h : Decode.required names Decode.int? fs = some n) : isSigned64 n = true := by
  unfold Decode.required at h
  split at h
  · unfold Decode.int? at h
    split at h
    · split_ifs at h with hsigned
      exact Option.some.inj h ▸ hsigned
    · contradiction
  · contradiction

theorem fits_of_ofNode? {n : Json.Node} {s : Stat} (h : ofNode? n = some s) : s.Fits := by
  obtain ⟨fs, -, h⟩ := Option.bind_eq_some_iff.mp h
  obtain ⟨ctime, hctime, h⟩ := Option.bind_eq_some_iff.mp h
  obtain ⟨mtime, hmtime, h⟩ := Option.bind_eq_some_iff.mp h
  obtain rfl := Option.some.inj h
  exact ⟨isSigned64_of_required hctime, isSigned64_of_required hmtime⟩

/-- The last time of 64 bits. -/
def lastTime : Int := 0x7fffffffffffffff

theorem isSigned64_next {time : Int} (h : isSigned64 time = true) : isSigned64 (next time) = true := by
  simp only [isSigned64, Bool.and_eq_true, decide_eq_true_eq] at h ⊢
  unfold next
  split_ifs <;> omega

theorem next_eq {time : Int} (h : time ≠ lastTime) : next time = time + 1 := if_neg h

theorem Fits.touch {before : Option Stat} {now : Int} (h : ∀ s ∈ before, s.Fits)
    (hnow : isSigned64 now = true) : (Stat.touch before now).Fits := by
  cases before with
  | none => exact ⟨hnow, hnow⟩
  | some s =>
    have hs := h s rfl
    refine ⟨hs.ctime, ?_⟩
    unfold Stat.touch
    dsimp only
    split_ifs
    · exact isSigned64_next hs.mtime
    · exact hnow

theorem mtime_touch_ne (s : Stat) (now : Int) : (Stat.touch (some s) now).mtime ≠ s.mtime := by
  unfold Stat.touch next
  dsimp only
  split_ifs <;> omega

/-- A write gives a later time unless the note had the last time of all. -/
theorem mtime_touch_eq {s : Stat} (h : s.mtime < lastTime) (now : Int) :
    (Stat.touch (some s) now).mtime = max (s.mtime + 1) now := by
  unfold Stat.touch
  dsimp only
  rw [next_eq (by omega)]
  split_ifs <;> omega

end Stat

namespace Ledger

/-- All times fit into 64 bits. -/
def Fits (l : Ledger) : Prop := ∀ e ∈ l.entries, e.2.Fits

/-- The part of a document that a ledger is written as. -/
def node (l : Ledger) : Json.Node :=
  .record [(some "files".toList, .record (l.entries.map fun e => (some e.1, e.2.node)))]

theorem reads_files {l : Ledger} (h : l.Fits) (depth : Nat) :
    Json.Reads (Json.indented depth (.record (l.entries.map fun e => (e.1, e.2.toValue))))
      (.record (l.entries.map fun e => (some e.1, e.2.node))) :=
  Json.reads_record Prod.fst (fun e => e.2.toValue) (fun e => e.2.node) fun e he =>
    Stat.reads_toValue (h e he) _

theorem reads_toValue {l : Ledger} (h : l.Fits) (depth : Nat) :
    Json.Reads (Json.indented depth l.toValue) l.node := by
  have hfiles : ∀ m ∈ [l], Json.Reads
      (Json.indented (depth + 1) (.record (m.entries.map fun e => (e.1, e.2.toValue))))
      (.record (m.entries.map fun e => (some e.1, e.2.node))) := by
    intro m hm
    rw [List.mem_singleton.mp hm]
    exact reads_files h _
  exact Json.reads_record (fun _ => "files".toList)
    (fun m : Ledger => .record (m.entries.map fun e => (e.1, e.2.toValue)))
    (fun m => .record (m.entries.map fun e => (some e.1, e.2.node))) hfiles

theorem entries?_node {l : Ledger} (h : l.Fits) :
    entries? (.record (l.entries.map fun e => (some e.1, e.2.node))) = some l := by
  have hnamed : (l.entries.map fun e => (some e.1, e.2.node)).mapM Json.Node.named? =
      some (l.entries.map fun e => (e.1, e.2.node)) := mapM_map_eq_some fun _ _ => rfl
  have hentry : (l.entries.map fun e => (e.1, e.2.node)).mapM entry? = some (l.entries.map id) := by
    refine mapM_map_eq_some fun e he => ?_
    rw [ entry?, Stat.ofNode?_node (h e he)]
    rfl
  rw [entries?, hnamed, Option.bind_some, hentry, List.map_id, Option.map_some,
    Index.ofList_entries]

theorem ofNode?_node {l : Ledger} (h : l.Fits) : ofNode? l.node = some l := by
  have hmembers : Json.Node.members? ["files"] l.node =
      some [("files".toList, .record (l.entries.map fun e => (some e.1, e.2.node)))] := rfl
  rw [ofNode?, hmembers]
  exact entries?_node h

theorem decode_encode {l : Ledger} (h : l.Fits) : decode (encode l) = l := by
  rw [decode, encode, Json.pretty, Json.ofBytes?_encode (reads_toValue h 0), Option.bind_some,
    ofNode?_node h, Option.getD_some]

theorem fits_of_entries? {n : Json.Node} {l : Ledger} (h : entries? n = some l) : l.Fits := by
  unfold entries? at h
  split at h
  · obtain ⟨es, hes, rfl⟩ := Option.map_eq_some_iff.mp h
    obtain ⟨ms, -, hms⟩ := Option.bind_eq_some_iff.mp hes
    intro e he
    obtain ⟨m, -, hm⟩ := mem_of_mapM_eq_some hms (Index.mem_ofList he)
    obtain ⟨s, hs, rfl⟩ := Option.map_eq_some_iff.mp hm
    exact Stat.fits_of_ofNode? hs
  · contradiction

theorem fits_of_ofNode? {n : Json.Node} {l : Ledger} (h : ofNode? n = some l) : l.Fits := by
  unfold ofNode? at h
  split at h
  · obtain rfl := Option.some.inj h
    exact fun e he => absurd he List.not_mem_nil
  · exact fits_of_entries? h
  · contradiction

theorem fits_decode (bs : Bytes) : (decode bs).Fits := by
  unfold decode
  cases h : (Json.ofBytes? bs).bind ofNode? with
  | none => exact fun e he => absurd he List.not_mem_nil
  | some l =>
    obtain ⟨n, -, hn⟩ := Option.bind_eq_some_iff.mp h
    exact fits_of_ofNode? hn

theorem Fits.insert {l : Ledger} (h : l.Fits) (path : Text) {s : Stat} (hs : s.Fits) :
    Ledger.Fits (l.insert path s) := by
  intro e he
  rcases Index.mem_insert he with rfl | he
  · exact hs
  · exact h e he

theorem Fits.get? {l : Ledger} (h : l.Fits) {path : Text} {s : Stat} (hs : l.get? path = some s) :
    s.Fits := h _ (Index.mem_of_get? hs)

end Ledger

end NoteVault
