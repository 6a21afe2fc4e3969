import NoteVault.Settings
import NoteVault.Vault.Basic

/-! The settings of a vault, which are kept in its reserved folder. -/

namespace NoteVault.Vault

def settingsPath : Text := Path.reserved ++ "/settings.json".toList

/-- The settings; a vault without a file of settings has the default ones. -/
def loadSettings (v : Vault) : Except Fault Settings :=
  match v.store.read? (v.full settingsPath) with
  | none => .ok {}
  | some bytes =>
    match (Json.ofBytes? bytes).bind Settings.ofNode? with
    | some s => .ok s
    | none => .error .settingsInvalid

def saveSettings [Medium] (v : Vault) (s : Settings) : Except Fault Unit × Vault :=
  v.writeFile settingsPath (Utf8.encode (Json.pretty s.toValue))

end NoteVault.Vault
