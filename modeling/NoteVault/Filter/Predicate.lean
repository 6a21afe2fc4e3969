import NoteVault.Formula.Basic
import NoteVault.Filter.Comparison

/-! The predicates that a statement may consist of, and how they are written. -/

namespace NoteVault

/-- The two tests of a text field of a file. -/
inductive TextTest where
  | contains
  | startsWith
  deriving DecidableEq, Repr

namespace TextTest

def label : TextTest → Text
  | .contains => "contains"
  | .startsWith => "startsWith"

def holds (test : TextTest) (needle t : Text) : Bool :=
  match test with
  | .contains => Text.holds needle t
  | .startsWith => Text.beginsWith needle t

end TextTest

inductive Predicate where
  /-- One of some tags is a tag of the note. -/
  | hasTag (tags : List Text)
  /-- The note lies in a folder or below it. -/
  | inFolder (folder : Text)
  /-- The note has a link with a target. -/
  | hasLink (target : Text)
  /-- Some texts hold a text, or what a reference to it names. -/
  | listed (items : List Text) (needle : Text)
  /-- A text field of the file passes a test. -/
  | field (field : FileField) (test : TextTest) (needle : Text)
  /-- What a reference names holds a link with a target. -/
  | linksTo (reference : Text) (target : Text)
  /-- A comparison of what a reference names with a value. -/
  | compare (reference : Text) (op : Comparison) (operand : Value)
  /-- What a reference names counts as true. -/
  | truthy (reference : Text)
  deriving Repr

namespace Predicate

/-- A path that ends in a slash, so that a folder is not taken for a longer one. -/
def folderPath (folder : Text) : Text := folder ++ ['/']

def holds (n : Note) (fs : Formulas) : Predicate → Bool
  | hasTag tags => tags.any fun tag => n.tags.any fun t => Tag.bare t == Tag.bare tag
  | inFolder folder => folder.isEmpty || Text.beginsWith (folderPath folder) n.path
  | hasLink target => n.links.any fun l => Link.target l == target
  | listed items needle =>
    let found := if Reference.isReference needle then n.resolve fs needle else none
    let needles := match found with
      | none => [Text.stripQuotes needle]
      | some .null => [Text.stripQuotes needle]
      | some (.list vs) => vs.map Value.display
      | some v => [v.display]
    needles.any fun t => items.contains t
  | field f test needle => test.holds needle (f.value n).display
  | linksTo r target =>
    (Value.toList (n.resolve fs r)).any fun v => Link.target v.display == target
  | compare r op v => op.holds (n.resolve fs r) (some v)
  | truthy r => Value.isTruthy (n.resolve fs r)

/-- The target in the argument of a link: what stands in `link(…)`, if it is written so, up to the
first comma. -/
def linkArgument (s : Text) : Text :=
  let t := Text.trim s
  let inner := (Text.between? "link(" ")" t).getD t
  Link.target ((Text.splitCommas inner).head?.getD inner)

/-- The text on both sides of the last `part`. -/
def cutAtLast? (part : Text) : Text → Option (Text × Text)
  | [] => none
  | c :: s =>
    match cutAtLast? part s with
    | some (l, r) => some (c :: l, r)
    | none => (Text.after? part (c :: s)).map fun r => ([], r)

/-- The predicate `[…].contains(…)`. -/
def listed? (s : Text) : Option Predicate :=
  ((Text.between? "[" ")" s).bind (cutAtLast? "].contains(")).map fun (items, needle) =>
    .listed (((Text.splitCommas items).map Text.stripQuotes).filter fun t => !t.isEmpty)
      (Text.trim needle)

/-- The target in `link(…)` and a closing parenthesis. -/
def linkCall? (s : Text) : Option Text :=
  (Text.after? "link(" (Text.trimStart s)).bind fun r =>
    ((Text.before? ")" r).bind fun r => Text.before? ")" (Text.trimEnd r)).map linkArgument

/-- The predicate `list(…).contains(link(…))`. -/
def listLinksTo? (s : Text) : Option Predicate :=
  ((Text.after? "list(" s).bind (Text.cut? ')')).bind fun (r, rest) =>
    let r := Text.trim r
    if Reference.isToken r then ((Text.after? ".contains(" rest).bind linkCall?).map (.linksTo r)
    else none

/-- The predicate `….contains(link(…))` of a reference. -/
def linksTo? (s : Text) : Option Predicate :=
  (Text.cut? '(' s).bind fun (head, rest) =>
    (Text.before? ".contains" head).bind fun r =>
      if Reference.isToken r then (linkCall? rest).map (.linksTo r) else none

/-- The test of one of some fields. -/
def field? (fields : List FileField) (s : Text) : Option Predicate :=
  fields.findSome? fun f =>
    [TextTest.contains, TextTest.startsWith].findSome? fun test =>
      (Text.between? ("file.".toList ++ f.label ++ '.' :: test.label ++ ['(']) ")" s).map fun t =>
        .field f test (Text.stripQuotes t)

/-- The predicate of a function that a text calls. -/
def call? (s : Text) : Option Predicate :=
  [ fun s => (Text.between? "file.hasTag(" ")" s).map fun t =>
      .hasTag ((Text.splitCommas t).map Text.stripQuotes),
    fun s => (Text.between? "file.inFolder(" ")" s).map fun t =>
      .inFolder (Path.trimSlashes (Text.stripQuotes t)),
    fun s => (Text.between? "file.hasLink(" ")" s).map fun t => .hasLink (linkArgument t),
    listed?,
    field? [.path, .folder],
    fun s => (Text.between? "file.tags.contains(" ")" s).map fun t =>
      .hasTag [Text.stripQuotes t],
    listLinksTo?,
    linksTo?,
    field? [.name, .ext] ].findSome? fun read => read s

/-- The comparison that a text writes. -/
def comparison? (s : Text) : Option Predicate :=
  (Comparison.sides? s).map fun (left, op, right) =>
    .compare (Text.trim left) op (Comparison.operand (Text.trim right))

/-- The predicate that a trimmed text writes: a call, a comparison or a mere reference. -/
def ofText? (s : Text) : Option Predicate :=
  match call? s, comparison? s with
  | some p, _ => some p
  | none, some p => some p
  | none, none => if Reference.isReference s then some (.truthy s) else none

end Predicate

end NoteVault
