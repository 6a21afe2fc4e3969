import NoteVault.Text.Basic

/-! Why an operation on a vault fails. -/

namespace NoteVault

inductive Fault where
  | notePathEmpty
  | fileEmpty
  | keyEmpty
  | setAndUnset (key : Text)
  | basePathEmpty
  | baseUnreadable
  | baseUnrepresentable
  | baseNotRecord
  | sectionNotRecord (name : Text)
  | viewsNotList
  | settingsInvalid
  | vectorsInvalid
  | queryTextEmpty
  | noteMissing (path : Text)
  | baseMissing (key : Text)
  | vectorMissing (path : Text)
  | vectorFileMissing (path : Text)
  | providerMissing
  | conflict (path : Text) (expected actual : Int)
  | writeFailed
  | folderFailed
  | ledgerFailed
  | noteUnreadable
  | vectorFileUnreadable
  | listedFileMissing (path : Text)
  | providerFailed (name : Text)
  /-- A sort that stops because its comparison is no order. -/
  | unsorted
  deriving DecidableEq, Repr

namespace Fault

/-- The kinds of faults that a caller tells apart. -/
inductive Kind where
  | validation
  | notFound
  | conflict
  | write
  | internal
  /-- The operation breaks off and has no answer. -/
  | panic
  deriving DecidableEq, Repr

def Kind.code : Kind → Text
  | .validation => "validation_error"
  | .notFound => "not_found"
  | .conflict => "mtime_conflict"
  | .write => "write_error"
  | .internal => "internal_error"
  | .panic => "panic"

def kind : Fault → Kind
  | .notePathEmpty | .fileEmpty | .keyEmpty | .setAndUnset _ | .basePathEmpty | .baseUnreadable
  | .baseUnrepresentable | .baseNotRecord | .sectionNotRecord _ | .viewsNotList | .settingsInvalid
  | .vectorsInvalid | .queryTextEmpty => .validation
  | .noteMissing _ | .baseMissing _ | .vectorMissing _ | .vectorFileMissing _ | .providerMissing =>
    .notFound
  | .conflict _ _ _ => .conflict
  | .writeFailed => .write
  | .folderFailed | .ledgerFailed | .noteUnreadable | .vectorFileUnreadable | .listedFileMissing _
  | .providerFailed _ => .internal
  | .unsorted => .panic

def code (f : Fault) : Text := f.kind.code

def notFound (what : Text) : Text := "not found: ".toList ++ what

def message : Fault → Text
  | .notePathEmpty => "note path must not be empty"
  | .fileEmpty => "file must not be empty"
  | .keyEmpty => "frontmatter keys must not be empty"
  | .setAndUnset key => "key '".toList ++ key ++ "' is both set and unset".toList
  | .basePathEmpty => "base path must not be empty"
  | .baseUnreadable => "base config must be valid YAML"
  | .baseUnrepresentable => "base config is not representable"
  | .baseNotRecord => "base config must be a mapping"
  | .sectionNotRecord name => name ++ " must be a mapping".toList
  | .viewsNotList => "views must be a list"
  | .settingsInvalid => "invalid settings.json"
  | .vectorsInvalid => "vector file is not valid JSON"
  | .queryTextEmpty => "query text must not be empty"
  | .noteMissing path => notFound ("note ".toList ++ path)
  | .baseMissing key => notFound ("base ".toList ++ key)
  | .vectorMissing path => notFound ("vector for ".toList ++ path)
  | .vectorFileMissing path => notFound ("vector file ".toList ++ path)
  | .providerMissing => notFound "embedding provider"
  | .conflict path expected actual =>
    "mtime conflict on ".toList ++ path ++ ": expected ".toList ++ Text.ofInt expected ++
      ", actual ".toList ++ Text.ofInt actual
  | .writeFailed => "write failed"
  | .folderFailed => "folder not created"
  | .ledgerFailed => "times not recorded"
  | .noteUnreadable => "failed to read note"
  | .vectorFileUnreadable => "failed to read vector file"
  | .listedFileMissing path => "no file at ".toList ++ path
  | .providerFailed name => "embedding provider ".toList ++ name ++ " failed".toList
  | .unsorted => "user-provided comparison function does not correctly implement a total order"

end Fault

end NoteVault
