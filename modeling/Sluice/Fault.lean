import Sluice.Text.Quoted
import Sluice.Text.Numeral

/-!
Everything that can stop a run: the causes, and the one place where they are put into words.
-/
namespace Sluice

/-- The kinds of exception that a caller can name, as data or to have one raised. -/
inductive Kind where
  | value
  | key
  | type
  | runtime
  | index
  deriving DecidableEq, Repr

namespace Kind

def name : Kind → String
  | .value => "ValueError"
  | .key => "KeyError"
  | .type => "TypeError"
  | .runtime => "RuntimeError"
  | .index => "IndexError"

def ofName? (s : String) : Option Kind :=
  [Kind.value, .key, .type, .runtime, .index].find? (·.name = s)

/-- What an exception says. A missing key is named the way it is written. -/
def wording : Kind → String → String
  | .key, text => Text.quote text
  | _, text => text

end Kind

/-- A parse failure surfaced as an error: where it happened, and notes for the reader. -/
structure ParseError where
  message : Option String
  pos : Int
  notes : List String
  hasSource : Bool
  /-- The exception it was raised from. -/
  cause : Option (Kind × String)
  deriving DecidableEq, Repr

/-- The two ways a filter compares. -/
inductive Direction where
  | eq
  | ne
  deriving DecidableEq, Repr

/-- What a filter is, apart from its parser and its value: a direction, with a diagnostic or
without. -/
structure Variant where
  direction : Direction
  diagnosed : Bool
  deriving DecidableEq, Repr

def Variant.name : Variant → String
  | ⟨.eq, false⟩ => "Eq"
  | ⟨.ne, false⟩ => "Ne"
  | ⟨.eq, true⟩ => "EqOrElse"
  | ⟨.ne, true⟩ => "NeOrElse"

/-- What can be read by position. -/
inductive Shape where
  | text
  | bytes
  | list
  | tuple
  deriving DecidableEq, Repr

inductive Fault where
  /-- An exception that a caller asked for. -/
  | raised (kind : Kind) (text : String)
  | surfaced (error : ParseError)
  /-- A second diagnostic for one filter. -/
  | alreadyDiagnosed (filter : Variant)
  /-- A negation of a filter that is negated already. -/
  | alreadyNegated (filter : Variant)
  /-- Only filters take a diagnostic, and only filters can be negated, in words or by sign. -/
  | takesNoDiagnostic
  | hasNoNegation
  | hasNoNegationSign
  | assigned (field : String) (filter : Variant)
  | deleted (field : String) (filter : Variant)
  | outOfRange (shape : Shape)
  /-- A position that no machine word holds. -/
  | unindexable
  /-- A caret that no line is wide enough for. -/
  | unindentable
  | stepZero
  | negativeAmount
  | noLiterals
  | numeral (fault : Text.NumeralFault)
  | unsized (type : String)
  | unnegatable (type : String)
  | unhashable (type : String)
  /-- Only a failure can be surfaced. -/
  | succeeded
  /-- A repetition that came back to a position it had been at. -/
  | endless
  deriving DecidableEq, Repr

namespace Shape

def outOfRange : Shape → String
  | .text => "string index out of range"
  | .bytes => "index out of range"
  | .list => "list index out of range"
  | .tuple => "tuple index out of range"

end Shape

namespace Fault

def numeralMessage : Text.NumeralFault → String
  | .malformed text => "invalid literal for int() with base 10: " ++ Text.quote text
  | .tooLong n =>
    "Exceeds the limit (" ++ toString Text.digitLimit ++
      " digits) for integer string conversion: value has " ++ toString n ++
      " digits; use sys.set_int_max_str_digits() to increase the limit"

def message : Fault → String
  | .raised kind text => kind.wording text
  | .surfaced error => error.message.getD ""
  | .alreadyDiagnosed filter => filter.name ++ " already has a diagnostic attached."
  | .alreadyNegated filter =>
    filter.name ++ " is already negated and can't be turned back into an equality check."
  | .takesNoDiagnostic => "'FnParser' object has no attribute 'or_else'"
  | .hasNoNegation => "'FnParser' object has no attribute 'not_'"
  | .hasNoNegationSign => "bad operand type for unary ~: 'FnParser'"
  | .assigned field filter =>
    "cannot assign to field " ++ Text.quote field ++ " of immutable " ++ filter.name
  | .deleted field filter =>
    "cannot delete field " ++ Text.quote field ++ " of immutable " ++ filter.name
  | .outOfRange shape => shape.outOfRange
  | .unindexable | .unindentable => "cannot fit 'int' into an index-sized integer"
  | .stepZero => "slice step cannot be zero"
  | .negativeAmount => "Amount can't be negative."
  | .noLiterals => "At least one literal required."
  | .numeral fault => numeralMessage fault
  | .unsized type => "object of type '" ++ type ++ "' has no len()"
  | .unnegatable type => "bad operand type for unary -: '" ++ type ++ "'"
  | .unhashable type => "unhashable type: '" ++ type ++ "'"
  | .succeeded => "'Result' object has no attribute 'to_error'"
  | .endless => "repetition without end"

end Fault

end Sluice
