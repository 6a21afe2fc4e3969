import NoteVault.Yaml.Token.Stream

/-!
The tree that tokens write. What is left out, such as the value behind a lone `key:`, is an empty
plain scalar.
-/

namespace NoteVault.Yaml

/-- What may stand in front of a node. -/
structure Props (α : Type) where
  anchor : Option α := none
  tag : Option Bytes := none
  deriving DecidableEq, Repr

/-- A tree whose anchors and aliases are labelled by `α`. -/
inductive Node (α : Type) where
  | scalar (props : Props α) (plain : Bool) (text : Text)
  | sequence (props : Props α) (items : List (Node α))
  | mapping (props : Props α) (entries : List (Node α × Node α))
  | alias (label : α)
  deriving Repr

/-- The prefixes that handles of tags stand for. -/
abbrev Handles := List (Text × Bytes)

/-- The handles that need no directive. -/
def Handles.standard : Handles :=
  [("!", Utf8.encode "!".toList), ("!!", Utf8.encode "tag:yaml.org,2002:".toList)]

namespace Node

def blank : Node Text := .scalar {} true []

/-- The full text of a tag. -/
def fullTag? (hs : Handles) (handle : Text) (suffix : Bytes) : Option Bytes :=
  if handle.isEmpty then some suffix else (hs.lookup handle).map (· ++ suffix)

/-- The anchor and the tag in front of a node, in either order. -/
def props? (hs : Handles) : List Token → Option (Props Text × List Token)
  | .anchor a :: .tag h t :: ts => (fullTag? hs h t).map fun t => (⟨some a, some t⟩, ts)
  | .tag h t :: .anchor a :: ts => (fullTag? hs h t).map fun t => (⟨some a, some t⟩, ts)
  | .anchor a :: ts => some (⟨some a, none⟩, ts)
  | .tag h t :: ts => (fullTag? hs h t).map fun t => (⟨none, some t⟩, ts)
  | ts => some ({}, ts)

/-- Whether a node is left out in front of one of some tokens. -/
def leftOut (ends : List Token) (ts : List Token) : Bool :=
  match ts with
  | t :: _ => ends.contains t
  | [] => true

mutual

/--
Reads a node. A `block` collection may stand only where it is asked for, and a sequence that is not
indented only behind a key (`unindented`).
-/
def read? (hs : Handles) : (fuel : Nat) → (block unindented : Bool) → List Token →
    Option (Node Text × List Token)
  | 0, _, _, _ => none
  | _ + 1, _, _, .alias name :: ts => some (.alias name, ts)
  | fuel + 1, block, unindented, ts =>
    match props? hs ts with
    | none => none
    | some (p, ts) =>
      match ts, block, unindented with
      | .blockEntry :: _, _, true =>
        (unindentedItems? hs fuel ts).map fun (vs, ts) => (.sequence p vs, ts)
      | .scalar plain text :: ts, _, _ => some (.scalar p plain text, ts)
      | .flowSequence :: ts, _, _ =>
        (flowItems? hs fuel true ts).map fun (vs, ts) => (.sequence p vs, ts)
      | .flowMapping :: ts, _, _ =>
        (flowEntries? hs fuel true ts).map fun (es, ts) => (.mapping p es, ts)
      | .blockSequence :: ts, true, _ =>
        (blockItems? hs fuel ts).map fun (vs, ts) => (.sequence p vs, ts)
      | .blockMapping :: ts, true, _ =>
        (blockEntries? hs fuel ts).map fun (es, ts) => (.mapping p es, ts)
      | ts, _, _ => if p == {} then none else some (.scalar p true [], ts)

/-- Reads a node unless one of some tokens stands in its place. -/
def readUnless? (hs : Handles) : (fuel : Nat) → (block unindented : Bool) → (ends : List Token) →
    List Token → Option (Node Text × List Token)
  | 0, _, _, _, _ => none
  | fuel + 1, block, unindented, ends, ts =>
    if leftOut ends ts then some (blank, ts) else read? hs fuel block unindented ts

def blockItems? (hs : Handles) : Nat → List Token → Option (List (Node Text) × List Token)
  | 0, _ => none
  | fuel + 1, .blockEntry :: ts =>
    match readUnless? hs fuel true false [.blockEntry, .blockEnd] ts with
    | none => none
    | some (v, ts) => (blockItems? hs fuel ts).map fun (vs, ts) => (v :: vs, ts)
  | _ + 1, .blockEnd :: ts => some ([], ts)
  | _ + 1, _ => none

def unindentedItems? (hs : Handles) : Nat → List Token → Option (List (Node Text) × List Token)
  | 0, _ => none
  | fuel + 1, .blockEntry :: ts =>
    match readUnless? hs fuel true false [.blockEntry, .key, .value, .blockEnd] ts with
    | none => none
    | some (v, ts) => (unindentedItems? hs fuel ts).map fun (vs, ts) => (v :: vs, ts)
  | _ + 1, ts => some ([], ts)

def blockEntries? (hs : Handles) :
    Nat → List Token → Option (List (Node Text × Node Text) × List Token)
  | 0, _ => none
  | fuel + 1, .key :: ts =>
    match readUnless? hs fuel true true [.key, .value, .blockEnd] ts with
    | none => none
    | some (k, ts) =>
      match blockValue? hs fuel ts with
      | none => none
      | some (v, ts) => (blockEntries? hs fuel ts).map fun (es, ts) => ((k, v) :: es, ts)
  | _ + 1, .blockEnd :: ts => some ([], ts)
  | _ + 1, _ => none

def blockValue? (hs : Handles) : Nat → List Token → Option (Node Text × List Token)
  | 0, _ => none
  | fuel + 1, .value :: ts => readUnless? hs fuel true true [.key, .value, .blockEnd] ts
  | _ + 1, ts => some (blank, ts)

/-- Reads the items of a flow sequence; a key among them makes a mapping of one entry. -/
def flowItems? (hs : Handles) : Nat → (isFirst : Bool) → List Token →
    Option (List (Node Text) × List Token)
  | 0, _, _ => none
  | _ + 1, _, .flowSequenceEnd :: ts => some ([], ts)
  | fuel + 1, isFirst, ts =>
    match (if isFirst then some ts else match ts with
      | .flowEntry :: ts => some ts
      | _ => none) with
    | none => none
    | some (.flowSequenceEnd :: ts) => some ([], ts)
    | some (.key :: ts) =>
      match flowPair? hs fuel ts with
      | none => none
      | some (v, ts) => (flowItems? hs fuel false ts).map fun (vs, ts) => (v :: vs, ts)
    | some ts =>
      match read? hs fuel false false ts with
      | none => none
      | some (v, ts) => (flowItems? hs fuel false ts).map fun (vs, ts) => (v :: vs, ts)

/-- Reads the one entry of a mapping among the items of a sequence. If its key is left out, the
token in its place is skipped. -/
def flowPair? (hs : Handles) : Nat → List Token → Option (Node Text × List Token)
  | 0, _ => none
  | fuel + 1, ts =>
    match (if leftOut [.value, .flowEntry, .flowSequenceEnd] ts then some (blank, ts.drop 1)
      else read? hs fuel false false ts) with
    | none => none
    | some (k, .value :: ts) =>
      (readUnless? hs fuel false false [.flowEntry, .flowSequenceEnd] ts).map fun (v, ts) =>
        (.mapping {} [(k, v)], ts)
    | some (k, ts) => some (.mapping {} [(k, blank)], ts)

def flowEntries? (hs : Handles) : Nat → (isFirst : Bool) → List Token →
    Option (List (Node Text × Node Text) × List Token)
  | 0, _, _ => none
  | _ + 1, _, .flowMappingEnd :: ts => some ([], ts)
  | fuel + 1, isFirst, ts =>
    match (if isFirst then some ts else match ts with
      | .flowEntry :: ts => some ts
      | _ => none) with
    | none => none
    | some (.flowMappingEnd :: ts) => some ([], ts)
    | some (.key :: ts) =>
      match readUnless? hs fuel false false [.value, .flowEntry, .flowMappingEnd] ts with
      | none => none
      | some (k, ts) =>
        match flowValue? hs fuel ts with
        | none => none
        | some (v, ts) => (flowEntries? hs fuel false ts).map fun (es, ts) => ((k, v) :: es, ts)
    | some ts =>
      match read? hs fuel false false ts with
      | none => none
      | some (k, ts) => (flowEntries? hs fuel false ts).map fun (es, ts) => ((k, blank) :: es, ts)

def flowValue? (hs : Handles) : Nat → List Token → Option (Node Text × List Token)
  | 0, _ => none
  | fuel + 1, .value :: ts => readUnless? hs fuel false false [.flowEntry, .flowMappingEnd] ts
  | _ + 1, ts => some (blank, ts)

end

/-- The directives in front of a document; each handle is given once. -/
def directives? (versioned : Bool) (hs : Handles) : List Token → Option (Handles × List Token)
  | .version major minor :: ts =>
    if versioned || major != 1 || (minor != 1 && minor != 2) then none
    else directives? true hs ts
  | .tagHandle h lead :: ts =>
    if (hs.lookup h).isSome then none else directives? versioned ((h, lead) :: hs) ts
  | ts => some (hs, ts)

/-- Whether nothing but the ends of a document is left. -/
def isOver (ts : List Token) : Bool := ts.all (· == .documentEnd)

/--
The tree of the one document that tokens write. A document without directives and without a mark at
its beginning has content; there may be no document at all.
-/
def ofTokens? (ts : List Token) : Option (Option (Node Text)) :=
  match ts with
  | [] => some none
  | _ =>
    match directives? false [] ts with
    | none => none
    | some (hs, rest) =>
      let explicit := ts.length != rest.length || rest.head? == some .documentStart
      let handles := hs ++ Handles.standard
      let result :=
        if !explicit then read? handles (6 * ts.length + 6) true false rest
        else match rest with
          | .documentStart :: rest =>
            if rest.isEmpty || rest.head? == some .documentEnd ||
              rest.head? == some .documentStart then some (blank, rest)
            else read? handles (6 * ts.length + 6) true false rest
          | _ => none
      match result with
      | some (node, rest) => if isOver rest then some (some node) else none
      | none => none

end Node

/-- The tree that a text writes, if it holds a document. -/
def parse? (s : Text) : Option (Option (Node Text)) := (tokens? s).bind Node.ofTokens?

end NoteVault.Yaml
