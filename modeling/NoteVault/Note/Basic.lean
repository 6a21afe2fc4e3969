import NoteVault.Note.Frontmatter
import NoteVault.Note.Path
import NoteVault.Note.Link
import NoteVault.Note.Tag
import NoteVault.Note.Code
import NoteVault.Value.Coercion
import NoteVault.Text.Utf8

/-! Notes: a markdown file with its place, times, metadata, tags and links. -/

namespace NoteVault

/-- When a file was created and last changed, in milliseconds. -/
structure Stat where
  ctime : Int := 0
  mtime : Int := 0
  deriving DecidableEq, Repr

structure Note where
  path : Text
  name : Text
  ext : Text
  folder : Text
  size : Nat
  ctime : Int
  mtime : Int
  frontmatter : Frontmatter
  tags : List Text
  links : List Text

namespace Note

/-- The non-empty texts of a list, each where it stands first. -/
def distinct (ts : List Text) : List Text :=
  ts.foldl (fun done t => if t.isEmpty || done.contains t then done else done ++ [t]) []

/-- The tags that a value of the metadata lists: a list, or words in a text. -/
def listedTags : Option Value → List Text
  | some (.text t) => (Text.pieces (fun c => c == ',' || Text.isBlank c) t).map Tag.bare
  | some (.list items) => items.map fun v => Tag.bare v.display
  | _ => []

/-- The tags of a note: those of its metadata, then those in its body outside of code. -/
def tagsOf (m : Frontmatter) (body : Text) : List Text :=
  distinct (listedTags (m.get? "tags") ++ listedTags (m.get? "tag") ++
    (Tag.written (Code.blankOut body)).filterMap Tag.proper?)

mutual

/-- The targets of links between double brackets in the texts of a value. -/
def valueTargets : Value → List Text
  | .text t => Link.wikiTargets t
  | .list items => itemTargets items
  | .record fields => fieldTargets fields
  | _ => []

def itemTargets : List Value → List Text
  | [] => []
  | v :: vs => valueTargets v ++ itemTargets vs

def fieldTargets : List (Text × Value) → List Text
  | [] => []
  | (_, v) :: fs => valueTargets v ++ fieldTargets fs

end

/-- The links of a note: those in its metadata, then those in its body outside of code. -/
def linksOf (m : Frontmatter) (body : Text) : List Text :=
  let body := Code.blankOut body
  distinct ((fieldTargets m.entries ++ Link.wikiTargets body ++
    (Link.fileTargets body).map (Text.replace "%20" [' '])).map Link.target)

/-- The note that a markdown text at a path makes. -/
def ofMarkdown (path markdown : Text) (stat : Stat) : Note :=
  let path := Path.ofNote path
  let name := Path.name path
  let frontmatter := Frontmatter.ofMarkdown markdown
  let body := (Fence.split markdown).2
  { path, name, frontmatter
    ext := (Path.extension? name).getD []
    folder := Path.folder path
    size := Utf8.size markdown
    ctime := stat.ctime
    mtime := stat.mtime
    tags := tagsOf frontmatter body
    links := linksOf frontmatter body }

end Note

end NoteVault
