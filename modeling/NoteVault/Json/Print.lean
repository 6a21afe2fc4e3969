import NoteVault.Value.Basic
import NoteVault.Number.Shortest

/-! JSON text of values, compact or indented by two spaces. -/

namespace NoteVault.Json

def hexDigit (n : Nat) : Char := (Nat.digitChar (n % 16))

/-- A character inside a quoted text. -/
def escaped (c : Char) : Text :=
  if c = '"' then ['\\', '"']
  else if c = '\\' then ['\\', '\\']
  else if c = '\n' then ['\\', 'n']
  else if c = '\r' then ['\\', 'r']
  else if c = '\t' then ['\\', 't']
  else if c.toNat = 8 then ['\\', 'b']
  else if c.toNat = 12 then ['\\', 'f']
  else if c.toNat < 32 then ['\\', 'u', '0', '0', hexDigit (c.toNat / 16), hexDigit c.toNat]
  else [c]

def quoted (t : Text) : Text := '"' :: t.flatMap escaped ++ ['"']

def ofNumber : Number → Text
  | .int n => Text.ofInt n
  | .real x => x.toExactText ['+']

mutual

/-- The text of a value without blanks. -/
def compact : Value → Text
  | .null => "null"
  | .bool b => if b then "true" else "false"
  | .number n => ofNumber n
  | .text t => quoted t
  | .list items => '[' :: Text.join [','] (compactItems items) ++ [']']
  | .record fields => '\x7b' :: Text.join [','] (compactFields fields) ++ ['\x7d']

def compactItems : List Value → List Text
  | [] => []
  | v :: vs => compact v :: compactItems vs

def compactFields : List (Text × Value) → List Text
  | [] => []
  | (k, v) :: fs => (quoted k ++ ':' :: compact v) :: compactFields fs

end

/-- A new line that begins with `depth` steps of indentation. -/
def newLine (depth : Nat) : Text := '\n' :: List.replicate (2 * depth) ' '

/-- The members of a list or record, one a line, between its brackets. -/
def bracketed (opening closing : Char) (depth : Nat) (members : List Text) : Text :=
  if members.isEmpty then [opening, closing]
  else opening :: newLine (depth + 1) ++ Text.join (',' :: newLine (depth + 1)) members ++
    newLine depth ++ [closing]

mutual

/-- The text of a value with one member of a list or record a line, as it stands at a depth. -/
def indented (depth : Nat) : Value → Text
  | .list items => bracketed '[' ']' depth (indentedItems (depth + 1) items)
  | .record fields => bracketed '\x7b' '\x7d' depth (indentedFields (depth + 1) fields)
  | v => compact v

def indentedItems (depth : Nat) : List Value → List Text
  | [] => []
  | v :: vs => indented depth v :: indentedItems depth vs

def indentedFields (depth : Nat) : List (Text × Value) → List Text
  | [] => []
  | (k, v) :: fs => (quoted k ++ ':' :: ' ' :: indented depth v) :: indentedFields depth fs

end

def pretty (v : Value) : Text := indented 0 v

end NoteVault.Json
