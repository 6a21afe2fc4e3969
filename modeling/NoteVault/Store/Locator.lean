import NoteVault.Store.Basic
import NoteVault.Uri.Parse

/-!
Locators: URIs that say where a store is. A locator that begins with `memory://` names a store by
its whole text; any other is read as a URI with a scheme, a host and a path.
-/

namespace NoteVault

/-- Where a store is: in memory, in a folder of this machine, or in a bucket. -/
inductive Locator where
  | memory
  | folder (root : Text)
  | bucket (name root : Text)
  deriving DecidableEq, Repr

namespace Locator

inductive Fault where
  | invalid
  | rootMissing
  | bucketMissing
  | unsupported (scheme : Text)
  deriving DecidableEq, Repr

def Fault.message : Fault → Text
  | .invalid => "Invalid storage URI"
  | .rootMissing => "File URI missing a root path"
  | .bucketMissing => "S3 URI missing bucket"
  | .unsupported scheme => "Unsupported storage scheme: ".toList ++ scheme

/-- The steps of a path that are not empty. -/
def steps (path : Text) : List Text := (Text.pieces (· == '/') path).filter fun s => !s.isEmpty

/-- The root of a store in a folder, without a slash at its end. -/
def folderRoot (path : Text) : Text := '/' :: Text.join ['/'] (steps path)

/-- The root of a store in a bucket, between slashes. -/
def bucketRoot (path : Text) : Text := '/' :: (steps path).flatMap fun s => s ++ ['/']

/-- The place that a text writes. -/
def ofText (s : Text) : Except Fault Locator :=
  if Text.beginsWith "memory://" s then .ok .memory
  else match Uri.ofText? s with
    | none => .error .invalid
    | some uri =>
      if uri.scheme == "file".toList || uri.scheme == "fs".toList then
        if uri.path.isEmpty then .error .rootMissing else .ok (.folder (folderRoot uri.path))
      else if uri.scheme == "s3".toList then
        match uri.host with
        | none => .error .bucketMissing
        | some host => .ok (.bucket host.toText (bucketRoot uri.path))
      else .error (.unsupported uri.scheme)

/-- The word for the kind of a place. -/
def scheme : Locator → Text
  | .memory => "memory"
  | .folder _ => "fs"
  | .bucket _ _ => "s3"

def root : Locator → Text
  | .memory => ['/']
  | .folder root => root
  | .bucket _ root => root

/-- The name of a bucket; other places have none. -/
def name : Locator → Text
  | .bucket name _ => name
  | _ => []

end Locator

/-- Stores in memory, each under the whole text of its locator. -/
abbrev MemoryStores := Index Store

/-- The store of a locator, which is empty at first. -/
def MemoryStores.find (ms : MemoryStores) (locator : Text) : Store := (ms.get? locator).getD .empty

end NoteVault
