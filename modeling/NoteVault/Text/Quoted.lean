import NoteVault.Text.Blank

/-! Quotes around a text, and commas outside of them. -/

namespace NoteVault.Text

def isQuote (c : Char) : Bool := c == '"' || c == '\''

/-- What stands between two equal quotes that enclose a text. -/
def unquoted? : Text → Option Text
  | q :: s =>
    match s.getLast? with
    | some e => if isQuote q && e == q then some s.dropLast else none
    | none => none
  | [] => none

/-- A trimmed text without one pair of enclosing quotes. -/
def stripQuotes (s : Text) : Text := (unquoted? (trim s)).getD (trim s)

def isQuoted (s : Text) : Bool := (unquoted? (trim s)).isSome

/-- Where a scan stands: inside which quote, and how many brackets are open. -/
structure Scan where
  quote : Option Char := none
  depth : Int := 0
  deriving DecidableEq, Repr

namespace Scan

/-- The scan after one more character. -/
def step (st : Scan) (c : Char) : Scan :=
  match st.quote with
  | some q => if c = q then { st with quote := none } else st
  | none =>
    if isQuote c then { st with quote := some c }
    else if c = '(' || c = '[' then { st with depth := st.depth + 1 }
    else if c = ')' || c = ']' then { st with depth := st.depth - 1 }
    else st

/-- Whether a comma would separate here: outside quotes and inside no bracket. -/
def isOpen (st : Scan) : Bool := st.quote.isNone && decide (st.depth ≤ 0)

end Scan

/-- Puts a character in front of the first of some texts. -/
def consHead (c : Char) : List Text → List Text
  | [] => [[c]]
  | t :: ts => (c :: t) :: ts

/-- The pieces of a text between the commas that separate, as they stand. -/
def commaPieces (st : Scan) : Text → List Text
  | [] => [[]]
  | c :: s =>
    if c = ',' && st.isOpen then [] :: commaPieces st s
    else consHead c (commaPieces (st.step c) s)

theorem commaPieces_ne_nil (st : Scan) (s : Text) : commaPieces st s ≠ [] := by
  cases s with
  | nil => simp [commaPieces]
  | cons c s =>
    unfold commaPieces
    split
    · simp
    · cases commaPieces (st.step c) s <;> simp [consHead]

theorem join_consHead (sep : Text) (c : Char) (ts : List Text) :
    join sep (consHead c ts) = c :: join sep ts := by
  cases ts with
  | nil => rfl
  | cons t ts => cases ts <;> rfl

/-- The pieces with the commas between them are the text. -/
theorem join_commaPieces (st : Scan) (s : Text) : join [','] (commaPieces st s) = s := by
  induction s generalizing st with
  | nil => rfl
  | cons c s ih =>
    unfold commaPieces
    split
    · next h =>
      have hc : c = ',' := by simpa using (Bool.and_eq_true_iff.1 h).1
      cases hp : commaPieces st s with
      | nil => exact absurd hp (commaPieces_ne_nil st s)
      | cons t ts => simp [join, ← hp, ih, hc]
    · rw [join_consHead, ih]

/-- The trimmed pieces of a text between the commas outside quotes and brackets. -/
def splitCommas (s : Text) : List Text := (commaPieces {} s).map trim

theorem length_join_splitCommas_le (s : Text) : (join [','] (splitCommas s)).length ≤ s.length := by
  conv => rhs; rw [← join_commaPieces {} s]
  exact length_join_map_le _ trim length_trim_le _

end NoteVault.Text
