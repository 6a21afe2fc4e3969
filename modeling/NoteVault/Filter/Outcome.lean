import NoteVault.Text.Basic

/-! Outcomes of filters: whether a note passes, and warnings about what was not understood. -/

namespace NoteVault

structure Outcome where
  ok : Bool
  warnings : List Text
  deriving DecidableEq, Repr

namespace Outcome

def pass : Outcome := ⟨true, []⟩

def of (ok : Bool) : Outcome := ⟨ok, []⟩

def negate (o : Outcome) : Outcome := ⟨!o.ok, o.warnings⟩

/-- Passes if all of some outcomes do; only those up to the first failure give warnings. -/
def all : List Outcome → Outcome
  | [] => pass
  | o :: os => if o.ok then ⟨(all os).ok, o.warnings ++ (all os).warnings⟩ else o

/-- Passes if one of some outcomes does; only those up to the first that passes give warnings. -/
def any : List Outcome → Outcome
  | [] => of false
  | o :: os => if o.ok then o else ⟨(any os).ok, o.warnings ++ (any os).warnings⟩

end Outcome

end NoteVault
