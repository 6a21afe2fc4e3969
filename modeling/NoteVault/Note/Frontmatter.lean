import NoteVault.Note.Fence
import NoteVault.Text.Blank
import NoteVault.Yaml.Data
import NoteVault.Yaml.Print

/-! The metadata at the beginning of a note. -/

namespace NoteVault

/-- The metadata of a note. -/
abbrev Frontmatter := Record Value

namespace Frontmatter

/-- The record that a YAML text writes, if it writes one. -/
def decode? (yaml : Text) : Option Frontmatter :=
  match (Yaml.load? yaml).bind Yaml.Data.toValue? with
  | some (.record fields) => some (Record.ofList fields)
  | _ => none

/-- The metadata that a block holds; text that cannot be read holds none. -/
def ofBlock (yaml : Text) : Frontmatter :=
  if Text.isBlankText yaml then .empty else (decode? yaml).getD .empty

/-- The metadata of a markdown text. -/
def ofMarkdown (markdown : Text) : Frontmatter :=
  ((Fence.split markdown).1.map ofBlock).getD .empty

/-- The YAML text of some metadata. -/
def encode (m : Frontmatter) : Text := Yaml.Print.record 0 m.entries

/-- A markdown text with some metadata in front of a body; no metadata needs no block. -/
def render (m : Frontmatter) (body : Text) : Text :=
  if m.isEmpty then body else "---\n" ++ encode m ++ "---\n" ++ body

end Frontmatter

end NoteVault
