import NoteVault.Formula.Literal
import NoteVault.Formula.Reference
import NoteVault.Note.Basic

/-!
Formulas: literals, references, `list(…)` and `join(list(…))` of a reference, and `if(…)`. Any
other text is a formula too, whose value is undefined.
-/

namespace NoteVault

inductive Formula where
  | undefined
  | literal (v : Value)
  | reference (r : Text)
  | listed (r : Text)
  | joined (r : Text)
  | cond (test yes no : Formula)
  deriving Repr

namespace Formula

/-- The reference in `list(…)`. -/
def listArgument? (s : Text) : Option Text :=
  (Text.between? "list(" ")" s).bind fun r =>
    let r := Text.trim r
    if Reference.isToken r then some r else none

/-- The reference in `join(list(…))`. -/
def joinArgument? (s : Text) : Option Text :=
  (Text.between? "join(" ")" s).bind fun r => listArgument? (Text.trim r)

/-- The arguments in `if(…)`, where blanks may stand before the parenthesis. -/
def ifArguments? (s : Text) : Option Text :=
  (Text.after? "if" s).bind fun r => Text.between? "(" ")" (Text.trimStart r)

theorem length_ifArguments? {s r : Text} (h : ifArguments? s = some r) : r.length < s.length := by
  unfold ifArguments? at h
  obtain ⟨a, ha, hr⟩ := Option.bind_eq_some_iff.1 h
  have hs := Text.after?_eq_some_iff.1 ha
  have := Text.length_between? hr
  have := Text.length_trimStart_le a
  simp [hs] at *
  omega

/-- The formula that a text writes. -/
def ofText (s : Text) : Formula :=
  let t := Text.trim s
  if t.isEmpty then .undefined
  else if t == "null".toList then .literal .null
  else match Literal.number? t, Literal.quoted? t with
    | some v, _ => .literal v
    | none, some q => .literal (.text q)
    | none, none =>
      if Reference.isReference t then .reference t
      else match joinArgument? t, listArgument? t with
        | some r, _ => .joined r
        | none, some r => .listed r
        | none, none =>
          match _h : ifArguments? t with
          | none => .undefined
          | some arguments =>
            match _hp : Text.splitCommas arguments with
            | test :: yes :: rest =>
              .cond (ofText test) (ofText yes) (ofText (Text.join [','] rest))
            | _ => .undefined
termination_by s.length
decreasing_by
  all_goals
    have hlt := Nat.lt_of_lt_of_le (length_ifArguments? _h) (Text.length_trim_le s)
    have hle := Text.length_join_splitCommas_le arguments
    rw [_hp] at hle
  · have := Text.length_le_join [','] (List.mem_cons_self : test ∈ test :: yes :: rest)
    omega
  · have := Text.length_le_join [',']
      (List.mem_cons_of_mem test (List.mem_cons_self : yes ∈ yes :: rest))
    omega
  · have h1 := Text.length_join_tail_le [','] (test :: yes :: rest)
    have h2 := Text.length_join_tail_le [','] (yes :: rest)
    simp only [List.tail_cons] at h1 h2
    omega

end Formula

/-- The formulas of a base, under their names. Without a base there are none. -/
abbrev Formulas := Record Value

/-- The text of a formula. -/
def Formulas.expression? (fs : Formulas) (name : Text) : Option Text :=
  (fs.get? name).bind Value.text?

/-- The fields of the file of a note. -/
inductive FileField where
  | path
  | name
  | ext
  | folder
  | size
  | ctime
  | mtime
  deriving DecidableEq, Repr

namespace FileField

def all : List FileField := [.path, .name, .ext, .folder, .size, .ctime, .mtime]

def label : FileField → Text
  | .path => "path"
  | .name => "name"
  | .ext => "ext"
  | .folder => "folder"
  | .size => "size"
  | .ctime => "ctime"
  | .mtime => "mtime"

def ofText? (t : Text) : Option FileField := all.find? fun f => f.label == t

/-- The value of a field; times and sizes are numbers. -/
def value (n : Note) : FileField → Value
  | .path => .text n.path
  | .name => .text n.name
  | .ext => .text n.ext
  | .folder => .text n.folder
  | .size => .number (.ofBinary64 (.ofInt n.size))
  | .ctime => .number (.ofBinary64 (.ofInt n.ctime))
  | .mtime => .number (.ofBinary64 (.ofInt n.mtime))

end FileField

namespace Note

/-- A field of the file of a note, by its name. -/
def fileField? (n : Note) (field : Text) : Option Value := (FileField.ofText? field).map (·.value n)

/-- What a reference names on a note, where `formula` gives the values of formulas. -/
def read (n : Note) (formula : Text → Option Value) (r : Text) : Option Value :=
  match Reference.ofText r with
  | .file field => n.fileField? field
  | .note key => n.frontmatter.get? key
  | .formula name => formula name

end Note

namespace Formula

/-- How many formulas may be entered one inside the other, counting branches of `if` too. -/
def maxDepth : Nat := 16

/-- The value of a formula on a note, entering at most `left - 1` formulas and branches. -/
def valueWithin (n : Note) (fs : Formulas) : (left : Nat) → Formula → Option Value
  | 0, _ => none
  | left + 1, f =>
    let read := n.read fun name =>
      (fs.expression? name).bind fun e => valueWithin n fs left (ofText e)
    match f with
    | .undefined => none
    | .literal v => some v
    | .reference r => read r
    | .listed r => some (.list (Value.toList (read r)))
    | .joined r => some (.text (Text.join ", " ((Value.toList (read r)).map Value.display)))
    | .cond test yes no =>
      if Value.isTruthy (valueWithin n fs left test) then valueWithin n fs left yes
      else valueWithin n fs left no

/-- The value of the formula that a text writes. -/
def evaluate (n : Note) (fs : Formulas) (s : Text) : Option Value :=
  valueWithin n fs (maxDepth + 1) (ofText s)

end Formula

/-- What a reference names on a note, with the formulas of a base. -/
def Note.resolve (n : Note) (fs : Formulas) (r : Text) : Option Value :=
  n.read (fun name => (fs.expression? name).bind fun e =>
    Formula.valueWithin n fs Formula.maxDepth (Formula.ofText e)) r

end NoteVault
