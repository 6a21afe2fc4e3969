import NoteVault.Store.Basic

/-! What a store is kept in, where any access to it may fail. -/

namespace NoteVault

namespace Store

/-- Whether a store is another one with more folders, all of which lead to a path. -/
structure FoldersAdded (s : Store) (p : Text) (t : Store) : Prop where
  files : t.files = s.files
  kept : ∀ a ∈ s.folders.keys, a ∈ t.folders.keys
  added : ∀ a ∈ t.folders.keys,
    a ∈ s.folders.keys ∨ Address.isWithin a (Address.ofPath p) = true

/-- Whether a store is another one, apart from the file of a path. -/
structure SameButFile (s : Store) (p : Text) (t : Store) : Prop where
  folders : t.folders = s.folders
  files : ∀ a, a ≠ Address.ofPath p → t.files.get? a = s.files.get? a

end Store

/-- What a store is kept in. A failure to look or to read changes nothing. Where a folder cannot be created,
some of those that lead to it may be, and where a file cannot be written, any bytes may be left in it. -/
class Medium where
  failsToLook : Store → Text → Bool
  failsToRead : Store → Text → Bool
  /-- The store that is left if a folder cannot be created. -/
  uncreated? : Store → Text → Option Store
  /-- The store that is left if a file cannot be written. -/
  unwritten? : Store → Text → Bytes → Option Store
  foldersAdded {s t : Store} {p : Text} (h : uncreated? s p = some t) : s.FoldersAdded p t
  sameButFile {s t : Store} {p : Text} {bytes : Bytes} (h : unwritten? s p bytes = some t) :
    s.SameButFile p t

/-- The medium in which no access fails. -/
instance Medium.reliable : Medium where
  failsToLook _ _ := false
  failsToRead _ _ := false
  uncreated? _ _ := none
  unwritten? _ _ _ := none
  foldersAdded h := nomatch h
  sameButFile h := nomatch h

namespace Store

variable [Medium]

/-- Creates the folder of a path if it is not there. That may fail. -/
def makeParent (s : Store) (p : Text) : Option Unit × Store :=
  match parent? p with
  | none => (some (), s)
  | some folder =>
    if Medium.failsToLook s folder then (none, s)
    else if s.has folder then (some (), s)
    else match Medium.uncreated? s folder with
      | some left => (none, left)
      | none => (some (), s.createFolder folder)

end Store

end NoteVault
