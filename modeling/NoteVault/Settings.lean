import NoteVault.Json.Node
import NoteVault.Value.Decode

/-! The settings of a vault. -/

namespace NoteVault

structure Settings where
  /-- Whether evaluated queries are answered from snapshots. -/
  liveEngine : Bool := false
  defaultLimit : Nat := 20
  maxLimit : Nat := 500
  maxPage : Nat := 1000000
  maxWarnings : Nat := 200
  embeddingProvider : Option Text := none
  deriving DecidableEq, Repr

namespace Settings

open Decode

def toValue (s : Settings) : Value :=
  .record [("live_engine", .bool s.liveEngine), ("default_limit", .int s.defaultLimit),
    ("max_limit", .int s.maxLimit), ("max_page", .int s.maxPage),
    ("max_warnings", .int s.maxWarnings),
    ("embedding_provider", (s.embeddingProvider.map .text).getD .null)]

def fieldNames : List Text :=
  ["live_engine", "default_limit", "max_limit", "max_page", "max_warnings", "embedding_provider"]

def ofFields? (fs : Fields) : Option Settings := do
  let d : Settings := {}
  return {
    liveEngine := ← withDefault ["live_engine"] d.liveEngine bool? fs
    defaultLimit := ← withDefault ["default_limit"] d.defaultLimit nat? fs
    maxLimit := ← withDefault ["max_limit"] d.maxLimit nat? fs
    maxPage := ← withDefault ["max_page"] d.maxPage nat? fs
    maxWarnings := ← withDefault ["max_warnings"] d.maxWarnings nat? fs
    embeddingProvider := ← optional ["embedding_provider"] text? fs }

def ofValue? (v : Value) : Option Settings := (fields? v).bind ofFields?

def ofNode? (n : Json.Node) : Option Settings := (n.fields? fieldNames).bind ofFields?

end Settings

end NoteVault
