/-!
Lines of a text. Two notions live side by side: `newlines` and `afterNewline` know the newline
only, `lines` ends a line at every kind of line break.
-/
namespace Sluice.Text

/-- A carriage return followed by a newline is one break; see `lines`. -/
def isBreak (c : Char) : Bool :=
  c = '\n' || c = '\r' || c = '\x0b' || c = '\x0c' || c = '\x1c' || c = '\x1d' || c = '\x1e' ||
  c = '\x85' || c = '\u2028' || c = '\u2029'

/-- Puts `c` at the front of the first line. -/
def extendFirst (c : Char) : List (List Char) → List (List Char)
  | [] => [[c]]
  | line :: rest => (c :: line) :: rest

/-- The lines without their breaks. A break at the very end starts no further line. -/
def lines : List Char → List (List Char)
  | [] => []
  | '\r' :: '\n' :: rest => [] :: lines rest
  | c :: rest => if isBreak c then [] :: lines rest else extendFirst c (lines rest)

/-- How many newlines a text holds. -/
def newlines (cs : List Char) : Nat :=
  cs.count '\n'

/-- How many characters follow the last newline. -/
def afterNewline (cs : List Char) : Nat :=
  (cs.reverse.takeWhile (· ≠ '\n')).length

end Sluice.Text
