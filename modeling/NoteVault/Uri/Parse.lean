import NoteVault.Number.Decimal
import NoteVault.Uri.Host
import NoteVault.Uri.Path

/-! URIs: a scheme, a host and a path. -/

namespace NoteVault

/-- What a URI says: its scheme, its host and its path. -/
structure Uri where
  scheme : Text
  host : Option Uri.Host
  path : Text
  deriving DecidableEq, Repr

namespace Uri

/-- The text of a URI without spaces and control characters around it and line ends in it. -/
def cleaned (s : Text) : Text :=
  let isOuter (c : Char) : Bool := c.toNat ≤ 32
  let inner := ((s.dropWhile isOuter).reverse.dropWhile isOuter).reverse
  inner.filter fun c => c != '\t' && c != '\n' && c != '\r'

def isSchemeChar (c : Char) : Bool := c.isAlphanum || c == '+' || c == '-' || c == '.'

/-- The scheme in small letters and what follows its colon. -/
def scheme? (s : Text) : Option (Text × Text) :=
  match Text.cut? ':' s with
  | some (c :: cs, rest) =>
    if c.isAlpha && cs.all isSchemeChar then some (Text.lower (c :: cs), rest) else none
  | _ => none

/-- The path that a text begins with. -/
def pathAt (k : Kind) (s : Text) : Text :=
  match s with
  | [] => if k = .other then [] else ['/']
  | c :: r =>
    if k.isSlash c then pathOf k r
    else if k = .other && (c == '?' || c == '#') then []
    else pathOf k s

/-- What stands in front of the first colon outside of brackets, and the rest. -/
def splitAtService (inBrackets : Bool) : Text → Text × Text
  | [] => ([], [])
  | c :: s =>
    if c = ':' && !inBrackets then ([], c :: s)
    else
      let (host, rest) := splitAtService (c = '[' || (c ≠ ']' && inBrackets)) s
      (c :: host, rest)

/-- What follows the number of a service, which is below 65536 and may be left out. -/
def afterService? (s : Text) : Option Text :=
  let rest := s.dropWhile Char.isDigit
  if 65536 ≤ Text.digitsValue (s.takeWhile Char.isDigit) then none
  else match rest with
    | [] => some []
    | c :: _ => if c == '/' || c == '\\' || c == '?' || c == '#' then some rest else none

/--
The host in front of `s`, together with what follows it and the number of its service. Without a
host there is no service and no name of a user.
-/
def hostAt? (k : Kind) (hasUser : Bool) (s : Text) : Option (Option Host × Text) :=
  let (text, rest) := splitAtService false (s.takeWhile fun c => !k.endsHost c)
  let rest := rest ++ s.dropWhile fun c => !k.endsHost c
  if text.isEmpty then
    if k = .web || hasUser || rest.head? = some ':' then none else some (none, rest)
  else (Host.ofText? (k = .web) text).bind fun host =>
    match rest with
    | ':' :: service => (afterService? service).map fun rest => (some host, rest)
    | _ => some (some host, rest)

/-- The host and what follows it, behind the name of a user and `@`. -/
def authority? (k : Kind) (s : Text) : Option (Option Host × Text) :=
  let rest := s.dropWhile fun c => !k.endsHost c
  match Text.cutLast? '@' (s.takeWhile fun c => !k.endsHost c) with
  | none => hostAt? k false s
  | some ([], host) =>
    if host.isEmpty && !rest.isEmpty then none else hostAt? k false (host ++ rest)
  | some (user, host) => hostAt? k (user ≠ [':']) (host ++ rest)

/-- The URI behind the slashes in front of its host. -/
def ofAuthority? (scheme : Text) (k : Kind) (s : Text) : Option Uri :=
  (authority? k s).map fun (host, rest) => ⟨scheme, host, pathAt k rest⟩

/-- The URI of a local file. A drive is part of the path, where a host could stand. -/
def ofFile? (scheme s : Text) : Option Uri :=
  match s with
  | c :: d :: r =>
    if Kind.file.isSlash c && Kind.file.isSlash d then
      let text := r.takeWhile fun c => !Kind.file.endsHost c
      let rest := r.dropWhile fun c => !Kind.file.endsHost c
      if text.isEmpty then some ⟨scheme, none, pathAt .file rest⟩
      else if isDrive text then some ⟨scheme, none, pathOf .file r⟩
      else (Host.ofText? true text).map fun host => ⟨scheme, some host, pathAt .file rest⟩
    else some ⟨scheme, none, pathAt .file s⟩
  | _ => some ⟨scheme, none, pathAt .file s⟩

/-- The URI that a text writes. -/
def ofText? (s : Text) : Option Uri :=
  (scheme? (cleaned s)).bind fun (scheme, rest) =>
    match Kind.ofScheme scheme with
    | .file => ofFile? scheme rest
    | .web => ofAuthority? scheme .web (rest.dropWhile Kind.web.isSlash)
    | .other =>
      match rest with
      | '/' :: '/' :: r => ofAuthority? scheme .other r
      | '/' :: r => some ⟨scheme, none, pathOf .other r⟩
      | r => some ⟨scheme, none, escaped isNeverPlain (beforeQuery r)⟩

end Uri

end NoteVault
