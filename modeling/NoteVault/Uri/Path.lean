import NoteVault.Uri.Percent

/-! Paths of URIs, in which `.` and `..` are carried out. -/

namespace NoteVault.Uri

/-- Kinds of schemes: local files, the web, whose URIs always have a host, and all others. -/
inductive Kind where
  | file
  | web
  | other
  deriving DecidableEq, Repr

namespace Kind

def ofScheme (scheme : Text) : Kind :=
  if scheme = "file".toList then .file
  else if ["http".toList, "https".toList, "ws".toList, "wss".toList, "ftp".toList].contains scheme
  then .web
  else .other

/-- In a file and on the web `\` stands for `/`. -/
def isSlash (k : Kind) (c : Char) : Bool := c == '/' || (k != .other && c == '\\')

/-- Whether a host ends in front of a character. -/
def endsHost (k : Kind) (c : Char) : Bool := k.isSlash c || c == '?' || c == '#'

end Kind

def isHere (step : Text) : Bool := [".".toList, "%2e".toList].contains (Text.lower step)

def isUp (step : Text) : Bool :=
  ["..".toList, ".%2e".toList, "%2e.".toList, "%2e%2e".toList].contains (Text.lower step)

/-- The name of a drive: a letter with a colon or a bar. -/
def isDrive (step : Text) : Bool :=
  match step with
  | [c, d] => c.isAlpha && (d == ':' || d == '|')
  | _ => false

/-- A step that begins with the name of a drive stays where `..` follows it. -/
def isKept (step : Text) : Bool :=
  isDrive step || (isDrive (step.take 2) && (step.drop 2).head? = some '\\')

/-- The steps that are left of `done`, the last one first, behind `..`. -/
def left (done : List Text) : List Text :=
  match done with
  | [] => []
  | step :: rest => if isKept step then done else rest

/-- The drive that a path of a file begins with has a colon. -/
def placed (k : Kind) (done : List Text) (step : Text) : List Text :=
  (if k = .file && done.isEmpty && isDrive step then step.take 1 ++ [':'] else step) :: done

/-- The steps of a path with `.` and `..` carried out; `done` is what stands before, reversed. -/
def resolved (k : Kind) (done : List Text) : List Text → List Text
  | [] => done.reverse
  | [step] =>
    if isUp step then ([] :: left done).reverse
    else if isHere step then ([] :: done).reverse
    else (placed k done step).reverse
  | step :: steps =>
    if isUp step then resolved k (left done) steps
    else if isHere step then resolved k done steps
    else resolved k (placed k done step) steps

def isEscapedInPath (c : Char) : Bool := isNeverPlain c || " \"<>`#?\x7b\x7d".toList.contains c

/-- A text in front of a query and a fragment. -/
def beforeQuery (s : Text) : Text := s.takeWhile fun c => c != '?' && c != '#'

/-- The path that begins behind a slash. -/
def pathOf (k : Kind) (s : Text) : Text :=
  let steps := (Text.pieces k.isSlash (beforeQuery s)).map (escaped isEscapedInPath)
  '/' :: Text.join ['/'] (resolved k [] steps)

end NoteVault.Uri
