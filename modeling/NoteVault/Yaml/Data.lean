import NoteVault.Yaml.Node
import NoteVault.Yaml.Scalar
import NoteVault.Value.Basic
import NoteVault.Value.Record
import NoteVault.Number.Shortest

/-! The data of a YAML document: its tree with scalars understood and aliases put in. -/

namespace NoteVault.Yaml

inductive Data where
  | scalar (m : Meaning)
  | sequence (items : List Data)
  | mapping (entries : List (Data × Data))
  | tagged (tag : Text) (content : Data)
  deriving Repr

namespace Meaning

/-- Equality of scalars; the two zeros among the doubles are equal. -/
def same : Meaning → Meaning → Bool
  | .real x, .real y => x.same y
  | a, b => a == b

end Meaning

namespace Data

mutual

/-- Equality of data, in which the order of the entries of a mapping does not count. -/
def same : Data → Data → Bool
  | .scalar a, .scalar b => a.same b
  | .sequence xs, .sequence ys => sameItems xs ys
  | .mapping es, .mapping fs => es.length == fs.length && sameEntries es fs
  | .tagged t x, .tagged u y => t == u && same x y
  | _, _ => false
termination_by x y => sizeOf x + sizeOf y

def sameItems : List Data → List Data → Bool
  | [], [] => true
  | x :: xs, y :: ys => same x y && sameItems xs ys
  | _, _ => false
termination_by xs ys => sizeOf xs + sizeOf ys

def sameEntries : List (Data × Data) → List (Data × Data) → Bool
  | [], _ => true
  | (k, v) :: es, fs => hasEntry k v fs && sameEntries es fs
termination_by es fs => sizeOf es + sizeOf fs

def hasEntry (k v : Data) : List (Data × Data) → Bool
  | [] => false
  | (l, w) :: fs => (same k l && same v w) || hasEntry k v fs
termination_by fs => sizeOf k + sizeOf v + sizeOf fs

end

/-- Whether two entries of a mapping have the same key. -/
def hasRepeatedKey : List (Data × Data) → Bool
  | [] => false
  | (k, _) :: es => es.any (fun (l, _) => same k l) || hasRepeatedKey es

/-- The name that a key has in a record: numbers and booleans are written out. -/
def keyText? : Data → Option Text
  | .scalar (.text t) => some t
  | .scalar (.bool b) => some (if b then "true" else "false")
  | .scalar (.int n) => some (Text.ofInt n)
  | .scalar (.real x) => some (x.toExactText ['+'])
  | _ => none

/-- Infinities and undefined numbers become null. -/
def ofMeaning : Meaning → Value
  | .null => .null
  | .bool b => .bool b
  | .int n => .int n
  | .real x => .number (.real x)
  | .infinite _ => .null
  | .notANumber => .null
  | .text t => .text t

mutual

/-- The value of some data; none if a key of a mapping has no name. A tag becomes the name of the
one field of a record. -/
def toValue? : Data → Option Value
  | .scalar m => some (ofMeaning m)
  | .sequence items => (toValues? items).map .list
  | .mapping entries => (toFields? [] entries).map .record
  | .tagged tag content => (toValue? content).map fun v => .record [('!' :: tag, v)]

def toValues? : List Data → Option (List Value)
  | [] => some []
  | d :: ds =>
    match toValue? d, toValues? ds with
    | some v, some vs => some (v :: vs)
    | _, _ => none

def toFields? (done : List (Text × Value)) : List (Data × Data) → Option (List (Text × Value))
  | [] => some done
  | (k, d) :: es =>
    match keyText? k, toValue? d with
    | some k, some v => toFields? (setEntry k v done) es
    | _, _ => none

end

end Data

namespace Node

/-- The names and properties after an anchor, which takes the number of the names before it. -/
def numbered (names : List (Text × Nat)) (p : Props Text) : List (Text × Nat) × Props Nat :=
  match p.anchor with
  | none => (names, ⟨none, p.tag⟩)
  | some name => (setEntry name names.length names, ⟨some names.length, p.tag⟩)

mutual

/--
A tree with numbers in the place of the names of its anchors. An anchor takes the number of the
names in use before it, so a number may be taken twice. `names` are the names so far; an alias
needs one of them.
-/
def number? (names : List (Text × Nat)) : Node Text → Option (List (Text × Nat) × Node Nat)
  | .alias name => (names.lookup name).map fun n => (names, .alias n)
  | .scalar p plain text =>
    let (names, p) := numbered names p
    some (names, .scalar p plain text)
  | .sequence p items =>
    let (names, p) := numbered names p
    (numberItems? names items).map fun (names, items) => (names, .sequence p items)
  | .mapping p entries =>
    let (names, p) := numbered names p
    (numberEntries? names entries).map fun (names, entries) => (names, .mapping p entries)

def numberItems? (names : List (Text × Nat)) :
    List (Node Text) → Option (List (Text × Nat) × List (Node Nat))
  | [] => some (names, [])
  | v :: vs =>
    match number? names v with
    | none => none
    | some (names, v) => (numberItems? names vs).map fun (names, vs) => (names, v :: vs)

def numberEntries? (names : List (Text × Nat)) :
    List (Node Text × Node Text) → Option (List (Text × Nat) × List (Node Nat × Node Nat))
  | [] => some (names, [])
  | (k, v) :: es =>
    match number? names k with
    | none => none
    | some (names, k) =>
      match number? names v with
      | none => none
      | some (names, v) => (numberEntries? names es).map fun (names, es) => (names, (k, v) :: es)

end

/-- A node under the number of its anchor. -/
def ownLabel (p : Props Nat) (node : Node Nat) : List (Nat × Node Nat) :=
  (p.anchor.map fun n => [(n, node)]).getD []

mutual

/-- The nodes with a number, in the order of their beginnings. -/
def labelled : Node Nat → List (Nat × Node Nat)
  | .alias _ => []
  | .scalar p plain text => ownLabel p (.scalar p plain text)
  | .sequence p items => ownLabel p (.sequence p items) ++ labelledItems items
  | .mapping p entries => ownLabel p (.mapping p entries) ++ labelledEntries entries

def labelledItems : List (Node Nat) → List (Nat × Node Nat)
  | [] => []
  | v :: vs => labelled v ++ labelledItems vs

def labelledEntries : List (Node Nat × Node Nat) → List (Nat × Node Nat)
  | [] => []
  | (k, v) :: es => labelled k ++ labelled v ++ labelledEntries es

end

mutual

/-- The size of a tree: one for a scalar or alias, two for a collection. -/
def weight : Node Nat → Nat
  | .alias _ => 1
  | .scalar _ _ _ => 1
  | .sequence _ items => 2 + weightItems items
  | .mapping _ entries => 2 + weightEntries entries

def weightItems : List (Node Nat) → Nat
  | [] => 0
  | v :: vs => weight v + weightItems vs

def weightEntries : List (Node Nat × Node Nat) → Nat
  | [] => 0
  | (k, v) :: es => weight k + weight v + weightEntries es

end

/-- How many collections may stand inside each other, aliases put in. -/
def maxDepth : Nat := 128

/-- How many aliases may be put in for each unit of the weight of a tree. -/
def maxRepetition : Nat := 100

/-- The name of a tag that begins with `!`. Up to two of these marks do not belong to the name,
unless nothing else is left. Bytes that are no text have no name. -/
def tagName? (tag : Bytes) : Option Text :=
  match Utf8.decode? tag with
  | some ('!' :: '!' :: c :: name) => some (c :: name)
  | some ('!' :: c :: name) => some (c :: name)
  | some ['!'] => some ['!']
  | _ => none

/-- Wraps the data of a node in the name of its tag. -/
def tagged (tag : Option Bytes) (content : Data) : Data :=
  match tag.bind tagName? with
  | some name => .tagged name content
  | none => content

/-- Whether a tag belongs to the document: it begins with `!`. -/
def isLocalTag (tag : Bytes) : Bool := Utf8.encode ['!'] <+: tag

/-- The data of a scalar. One of the tags for simple values forces its meaning, and any other tag
that is not local makes it a text. -/
def scalarData? (tag : Option Bytes) (plain : Bool) (text : Text) : Option Data :=
  let untagged : Option Meaning := if plain then Meaning.ofPlain? text else some (.text text)
  match tag with
  | none => untagged.map .scalar
  | some t =>
    if isLocalTag t then untagged.map fun m => tagged tag (.scalar m)
    else
      match (Utf8.decode? t).bind (Text.after? "tag:yaml.org,2002:") with
      | some kind => (Meaning.ofTagged? kind text).map .scalar
      | none => some (.scalar (.text text))

/-- Maps a list by a step that uses up part of a budget. -/
def mapBudget? {α β : Type} (f : Nat → α → Option (Nat × β)) (budget : Nat) :
    List α → Option (Nat × List β)
  | [] => some (budget, [])
  | a :: as =>
    match f budget a with
    | none => none
    | some (budget, b) => (mapBudget? f budget as).map fun (budget, bs) => (budget, b :: bs)

/-- The node that an alias stands for; each alias takes one from the budget. -/
def follow? (nodes : List (Nat × Node Nat)) (budget : Nat) (node : Node Nat) :
    Option (Nat × Node Nat) :=
  match node, budget with
  | .alias _, 0 => none
  | .alias n, budget + 1 => (nodes.lookup n).map fun node => (budget, node)
  | node, budget => some (budget, node)

/-- The data of a node; none if a scalar is not understood, a key is repeated, or a bound is
exceeded. -/
def data? (nodes : List (Nat × Node Nat)) : (depth budget : Nat) → Node Nat → Option (Nat × Data)
  | depth, budget, node =>
    match follow? nodes budget node, depth with
    | some (budget, .scalar p plain text), _ =>
      (scalarData? p.tag plain text).map fun d => (budget, d)
    | some (budget, .sequence p items), depth + 1 =>
      (mapBudget? (data? nodes depth) budget items).map fun (budget, items) =>
        (budget, tagged p.tag (.sequence items))
    | some (budget, .mapping p entries), depth + 1 =>
      let entry (budget : Nat) (e : Node Nat × Node Nat) : Option (Nat × (Data × Data)) :=
        match data? nodes depth budget e.1 with
        | none => none
        | some (budget, k) => (data? nodes depth budget e.2).map fun (budget, v) => (budget, (k, v))
      match mapBudget? entry budget entries with
      | none => none
      | some (budget, entries) =>
        if Data.hasRepeatedKey entries then none
        else some (budget, tagged p.tag (.mapping entries))
    | _, _ => none

end Node

/-- The data of a text; a text without a document is null. -/
def load? (s : Text) : Option Data :=
  match parse? s with
  | none => none
  | some none => some (.scalar .null)
  | some (some node) =>
    match Node.number? [] node with
    | none => none
    | some (_, node) =>
      (Node.data? node.labelled.reverse Node.maxDepth (Node.maxRepetition * node.weight) node).map
        Prod.snd

end NoteVault.Yaml
