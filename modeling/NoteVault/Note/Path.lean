import NoteVault.Text.Blank

/-! Paths of notes and bases inside a vault, and of files inside a store. -/

namespace NoteVault.Path

/-- A path without the steps `./` that it begins with. -/
def dropHere : Text → Text
  | '.' :: '/' :: s => dropHere s
  | s => s

/--
The path of a note: trimmed, with `/` for `\`, and without the slashes and then the steps `./` at
the beginning.
-/
def ofNote (s : Text) : Text :=
  dropHere (((Text.trim s).map fun c => if c = '\\' then '/' else c).dropWhile (· == '/'))

/-- The key of a base: a note path that ends in `.base`. -/
def ofBase (s : Text) : Text :=
  let p := ofNote s
  if Text.endsIn ".base" (Text.lower p) then p else p ++ ".base"

/-- The key of a base without a name. -/
def unnamedBase : Text := ".base"

def trimSlashes (s : Text) : Text := Text.dropTail (· == '/') (s.dropWhile (· == '/'))

/-- The store path of a path inside a vault. -/
def join (vault rel : Text) : Text :=
  let root := Text.dropTail (· == '/') vault
  let rel := rel.dropWhile (· == '/')
  if root.isEmpty then rel else root ++ '/' :: rel

/-- The path inside a vault of a store path; a path that does not begin with the root is kept. -/
def relative (vault full : Text) : Text :=
  let root := trimSlashes vault
  let full := full.dropWhile (· == '/')
  if root.isEmpty then full
  else match Text.after? root full with
    | some rest => rest.dropWhile (· == '/')
    | none => full

/-- The last step of a path. -/
def name (p : Text) : Text := ((Text.cutLast? '/' p).map Prod.snd).getD p

/-- All steps of a path but the last. -/
def folder (p : Text) : Text := ((Text.cutLast? '/' p).map Prod.fst).getD []

/-- What follows the last point of a path. -/
def extension? (p : Text) : Option Text := (Text.cutLast? '.' p).map Prod.snd

/-- The folder where the files about a vault itself are kept. -/
def reserved : Text := ".notebase"

/-- Whether a path lies in the reserved folder of its vault. -/
def isReserved (rel : Text) : Bool := rel == reserved || Text.beginsWith (reserved ++ ['/']) rel

def hasExtension (ext rel : Text) : Bool :=
  match extension? rel with
  | some e => Text.alike e ext
  | none => false

end NoteVault.Path
