import Sluice.Parser

/-!
Filters are stacked by words: `eq` and `ne` put one on, `orElse` gives it a diagnostic and `negate`
turns an equality check around, each at most once, and there is no way back from an inequality.
-/
namespace Sluice.Parser

def eq (p : Parser) (value : Value) : Parser :=
  .filter p ⟨.eq, value, none⟩

def ne (p : Parser) (value : Value) : Parser :=
  .filter p ⟨.ne, value, none⟩

def orElse (p : Parser) (d : Diagnostic) : Except Fault Parser :=
  match p with
  | .filter inner layer => match layer.diagnostic with
    | none => .ok (.filter inner { layer with diagnostic := some d })
    | some _ => .error (.alreadyDiagnosed layer.variant)
  | .fn .. => .error .takesNoDiagnostic

/-- The two ways to write a negation. They differ in what is said when there is nothing to negate.
-/
inductive Negation where
  | word
  | sign
  deriving DecidableEq, Repr

def negate (form : Negation) (p : Parser) : Except Fault Parser :=
  match p with
  | .filter inner layer => match layer.direction with
    | .eq => .ok (.filter inner { layer with direction := .ne })
    | .ne => .error (.alreadyNegated layer.variant)
  | .fn .. => match form with
    | .word => .error .hasNoNegation
    | .sign => .error .hasNoNegationSign

/-- One word of a builder. -/
inductive Word where
  | eq (value : Value)
  | ne (value : Value)
  | orElse (d : Diagnostic)
  | negate (form : Negation)

def say (p : Parser) : Word → Except Fault Parser
  | .eq value => .ok (p.eq value)
  | .ne value => .ok (p.ne value)
  | .orElse d => p.orElse d
  | .negate form => p.negate form

/-- A filter can be changed only by building another. -/
def assign (p : Parser) (field : String) : Option Fault :=
  match p with
  | .filter _ layer => some (.assigned field layer.variant)
  | .fn .. => none

def delete (p : Parser) (field : String) : Option Fault :=
  match p with
  | .filter _ layer => some (.deleted field layer.variant)
  | .fn .. => none

end Sluice.Parser

namespace Sluice.Fault

/-- Refused words are also written to the log. -/
def logged? : Fault → Option String
  | .alreadyDiagnosed filter => some ("Rejected a second or_else() on " ++ filter.name)
  | .alreadyNegated filter => some ("Rejected not_() on " ++ filter.name)
  | _ => none

end Sluice.Fault
