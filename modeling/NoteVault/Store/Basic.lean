import NoteVault.Index
import NoteVault.Text.Utf8
import NoteVault.Text.Blank

/-!
Stores: files and folders under addresses. The address of a folder ends in a slash. A folder is
there as soon as it is created or anything lies in it.
-/

namespace NoteVault

namespace Address

/-- The address that a path leads to: trimmed, and without the steps that are empty. -/
def ofPath (p : Text) : Text :=
  let p := (Text.trim p).dropWhile (· == '/')
  if p.isEmpty then ['/']
  else
    Text.join ['/'] ((Text.pieces (· == '/') p).filter fun step => !step.isEmpty) ++
      if p.getLast? = some '/' then ['/'] else []

def isFolder (a : Text) : Bool := Text.endsIn ['/'] a

/-- Whether an address lies in a folder or is the folder itself; `/` holds every address. -/
def isWithin (folder a : Text) : Bool := folder == ['/'] || Text.beginsWith folder a

end Address

structure Store where
  files : Index Bytes
  /-- The folders that were created. -/
  folders : Index Unit

namespace Store

def empty : Store := ⟨.empty, .empty⟩

instance : Inhabited Store := ⟨empty⟩

/-- Whether a file or folder is there. -/
def has (s : Store) (p : Text) : Bool :=
  let a := Address.ofPath p
  if Address.isFolder a then
    a == ['/'] || s.files.keys.any (Address.isWithin a) || s.folders.keys.any (Address.isWithin a)
  else s.files.has a

/-- The bytes of a file; a folder has none. -/
def read? (s : Store) (p : Text) : Option Bytes :=
  if Address.isFolder (Address.ofPath p) then none else s.files.get? (Address.ofPath p)

/-- Puts bytes into a file, which may be new. A folder cannot be written. -/
def write? (s : Store) (p : Text) (bytes : Bytes) : Option Store :=
  if Address.isFolder (Address.ofPath p) then none
  else some { s with files := s.files.insert (Address.ofPath p) bytes }

theorem read?_write? {s t : Store} {p : Text} {bytes : Bytes} (h : s.write? p bytes = some t)
    (q : Text) :
    t.read? q = if Address.ofPath q = Address.ofPath p then some bytes else s.read? q := by
  unfold write? at h
  split at h
  · simp at h
  · next hp =>
    obtain rfl := Option.some.inj h
    unfold read?
    by_cases hq : Address.ofPath q = Address.ofPath p
    · simp [hq, hp, Index.get?_insert]
    · simp [hq, Index.get?_insert]

/-- A path can be written exactly if its address is not that of a folder. -/
theorem isSome_write? (s : Store) (p : Text) (bytes : Bytes) :
    (s.write? p bytes).isSome = !Address.isFolder (Address.ofPath p) := by
  unfold write?
  split <;> simp_all

def createFolder (s : Store) (p : Text) : Store :=
  { s with folders := s.folders.insert (Address.ofPath p) () }

/-- The folder of a path, with its slash, unless that is the top of the store. -/
def parent? (p : Text) : Option Text :=
  (Text.cutLast? '/' p).bind fun (folder, _) =>
    if folder.isEmpty then none else some (folder ++ ['/'])

/-- Creates the folder of a path if it is not there. -/
def ensureParent (s : Store) (p : Text) : Store :=
  match parent? p with
  | none => s
  | some folder => if s.has folder then s else s.createFolder folder

@[simp] theorem files_ensureParent (s : Store) (p : Text) : (s.ensureParent p).files = s.files := by
  unfold ensureParent
  split
  · rfl
  · split <;> rfl

theorem read?_ensureParent (s : Store) (p q : Text) : (s.ensureParent p).read? q = s.read? q := by
  simp [read?]

/-- The addresses of the files in a folder and in the folders inside it. -/
def filesWithin (s : Store) (folder : Text) : List Text :=
  s.files.keys.filter (Address.isWithin (Address.ofPath folder))

end Store

end NoteVault
