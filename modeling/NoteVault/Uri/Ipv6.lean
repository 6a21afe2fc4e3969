import NoteVault.Number.Decimal
import NoteVault.Text.Digit

/-!
Addresses of eight groups of two bytes, written with colons between them. Two colons in a row stand
for all groups that are left out, and four decimal numbers may stand for the last two groups.
-/

namespace NoteVault.Uri.Ipv6

/-- A group of at most four hexadecimal digits. -/
def group? (s : Text) : Option Nat := if 4 < s.length then none else Text.inBase? 16 s

/-- A decimal number below 256 without a needless zero. -/
def byte? (s : Text) : Option Nat :=
  match s with
  | '0' :: _ :: _ => none
  | _ => (Text.toNat? s).filter (· < 256)

/-- The last part of an address: a group, or two groups as four numbers. -/
def tail? (s : Text) : Option (List Nat) :=
  match (Text.pieces (· == '.') s).mapM byte? with
  | some [a, b, c, d] => some [256 * a + b, 256 * c + d]
  | _ => (group? s).map fun n => [n]

/-- The groups of some parts. -/
def ofParts? : List Text → Option (List Nat)
  | [] => some []
  | [s] => tail? s
  | s :: ss => (group? s).bind fun n => (ofParts? ss).map (n :: ·)

/-- The groups that stand on one side of two colons. -/
def side? (s : Text) : Option (List Nat) :=
  if s.isEmpty then some [] else ofParts? (Text.pieces (· == ':') s)

/-- The text on both sides of the first two colons in a row. -/
def cutAtGap? : Text → Option (Text × Text)
  | ':' :: ':' :: s => some ([], s)
  | c :: s => (cutAtGap? s).map fun (l, r) => (c :: l, r)
  | [] => none

/-- The eight groups of an address. -/
def ofText? (s : Text) : Option (List Nat) :=
  match cutAtGap? s with
  | none => (side? s).filter (·.length = 8)
  | some (l, r) =>
    if l.contains '.' then none
    else match side? l, side? r with
      | some front, some back =>
        if front.length + back.length < 8 then
          some (front ++ List.replicate (8 - front.length - back.length) 0 ++ back)
        else none
      | _, _ => none

def groupsText (ns : List Nat) : Text := Text.join [':'] (ns.map (Nat.toDigits 16))

/-- How many groups at the beginning are zero. -/
def zeros (ns : List Nat) : Nat := (ns.takeWhile (· = 0)).length

/-- Where the first of the longest runs of zero groups begins. -/
def gapStart (ns : List Nat) : Nat :=
  (List.range ns.length).foldl
    (fun i j => if zeros (ns.drop i) < zeros (ns.drop j) then j else i) 0

/-- An address with its longest run of zero groups left out, if that has two groups or more. -/
def toText (ns : List Nat) : Text :=
  let start := gapStart ns
  let count := zeros (ns.drop start)
  if count < 2 then groupsText ns
  else groupsText (ns.take start) ++ "::".toList ++ groupsText (ns.drop (start + count))

end NoteVault.Uri.Ipv6
