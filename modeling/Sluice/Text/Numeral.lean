import Sluice.Text.Alphabet

/-!
Whole numbers in decimal digits.
-/
namespace Sluice.Text

def isDigit (c : Char) : Bool :=
  digits.contains c

def digitValue (c : Char) : Nat :=
  c.toNat - '0'.toNat

/-- The positional value of a run of digits. -/
def positional (cs : List Char) : Nat :=
  cs.foldl (fun n c => 10 * n + digitValue c) 0

/-- A numeral is at most this many digits long, leading zeros included and the sign left out. -/
def digitLimit : Nat := 4300

inductive NumeralFault where
  | malformed (text : String)
  | tooLong (digits : Nat)
  deriving DecidableEq, Repr

/-- Takes the sign off. -/
def unsigned : List Char → Bool × List Char
  | '-' :: rest => (true, rest)
  | '+' :: rest => (false, rest)
  | cs => (false, cs)

/-- Reads an optional sign and at least one digit. -/
def readNumeral (cs : List Char) : Except NumeralFault Int :=
  let (negative, run) := unsigned cs
  if run.isEmpty || !run.all isDigit then .error (.malformed (String.ofList cs))
  else if digitLimit < run.length then .error (.tooLong run.length)
  else .ok (if negative then -(positional run : Int) else positional run)

end Sluice.Text
