import NoteVault.Base.Schema
import NoteVault.Vault.Basic
import NoteVault.Yaml.Data

/-! The bases of a vault. -/

namespace NoteVault

namespace Spec

/-- The record that the text of a base writes; nothing or null writes the empty one. -/
def decode (raw : Text) : Except Fault Value :=
  match Yaml.load? raw with
  | none => .error .baseUnreadable
  | some data =>
    match Yaml.Data.toValue? data with
    | none => .error .baseUnrepresentable
    | some .null => .ok (.record [])
    | some (.record fields) => .ok (.record fields)
    | some _ => .error .baseNotRecord

def isNullOr (shape : Value → Bool) (v : Option Value) : Bool :=
  match v with
  | none => true
  | some v => v.isNull || shape v

/-- The fault of a base with a section of another shape than it should have. -/
def sectionFault? (spec : Value) : Option Fault :=
  if !isNullOr Value.isRecord (spec.get? "properties") then some (.sectionNotRecord "properties")
  else if !isNullOr Value.isRecord (spec.get? "formulas") then some (.sectionNotRecord "formulas")
  else if !isNullOr Value.isList (spec.get? "views") then some .viewsNotList
  else none

end Spec

namespace Vault

/-- The text of a base. -/
def readBase (v : Vault) (base : Text) : Except Fault Text :=
  let key := Path.ofBase base
  match v.store.read? (v.full key) with
  | some bytes => .ok (Utf8.decode bytes)
  | none => .error (.baseMissing key)

/-- What is wrong with a text as the text of a base. -/
def baseFault? (key raw : Text) : Option Fault :=
  if key == Path.unnamedBase then some .basePathEmpty
  else match Spec.decode raw with
    | .error f => some f
    | .ok spec => Spec.sectionFault? spec

/-- Replaces the text of a base and gives its key; a text that is no base is not written. -/
def writeBase [Medium] (v : Vault) (base raw : Text) : Except Fault Text × Vault :=
  let key := Path.ofBase base
  match baseFault? key raw with
  | some f => (.error f, v)
  | none =>
    match v.writeFile key (Utf8.encode raw) with
    | (.error _, v) => (.error .writeFailed, v)
    | (.ok (), v) => (.ok key, v)

def loadSpec (v : Vault) (base : Text) : Except Fault Value := (v.readBase base).bind Spec.decode

def getSchema (v : Vault) (base : Text) : Except Fault Schema :=
  (v.loadSpec base).map (Spec.schema (Path.ofBase base))

/-- The paths of all bases in ascending order. -/
def listBases (v : Vault) : List Text := v.listPaths "base"

end Vault

end NoteVault
