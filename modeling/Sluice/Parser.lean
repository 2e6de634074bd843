import Sluice.Checkpoint
import Sluice.Diagnostic
import Sluice.Response
import Sluice.Savepoint

/-!
A parser is a function on a stream with a name, or an equality filter around another parser. A
filter runs the parser in it, compares the parsed value, and turns a success that it rejects into a
failure; the stream stays where the inner parser left it.
-/
namespace Sluice

/-- What a parser made from a function goes by: the function's name, or the way the function itself
is written where it has none. -/
inductive Label where
  | named (name : String)
  | bare (text : String)
  deriving DecidableEq, Repr

/-- One filter: the comparison, the value compared with, and the diagnostic of a rejection. -/
structure Layer where
  direction : Direction
  value : Value
  diagnostic : Option Diagnostic

inductive Parser where
  | fn (label : Label) (body : Source → Action Reply)
  | filter (inner : Parser) (layer : Layer)

namespace Layer

def variant (layer : Layer) : Variant :=
  ⟨layer.direction, layer.diagnostic.isSome⟩

/-- Whether the comparison comes out true for a parsed value. -/
def holds (layer : Layer) (v : Value) : Except Fault Bool :=
  match layer.direction with
  | .eq => (v.equals layer.value).map Value.truthy
  | .ne => (v.differs layer.value).map Value.truthy

/-- The inner parser's response, narrowed. -/
def narrow (layer : Layer) (r : Reply) : Action Reply := do
  let holds (v : Value) : Action Bool := Action.of (layer.holds v)
  let next ← match layer.diagnostic with
    | none => r.filter holds
    | some d => r.filterOrElse holds d.call
  return next.reply r

/-- The same, telling whether the response was handed on as it is. -/
def apply (layer : Layer) (r : Reply) : Action Response.Next :=
  let holds (v : Value) : Action Bool := Action.of (layer.holds v)
  match layer.diagnostic with
  | none => r.filter holds
  | some d => r.filterOrElse holds d.call

theorem narrow_eq (layer : Layer) (r : Reply) :
    layer.narrow r = do return (← layer.apply r).reply r := by
  unfold narrow apply
  cases layer.diagnostic <;> rfl

end Layer

namespace Parser

/-- Runs a parser where the stream stands. -/
def run : Parser → Source → Action Reply
  | .fn _ body, src => body src
  | .filter inner layer, src => do
    let r ← inner.run src
    layer.narrow r

/-- Runs a parser from a position, with the diagnostics called so far. -/
def parse (p : Parser) (src : Source) (start : Int) (calls : List Nat) :
    Except Fault Reply × Progress :=
  match p.run src ⟨start, calls⟩ with
  | .ok r s => (.ok r, s)
  | .error fault s => (.error fault, s)

/-- The parsed value, with a failure raised as an error. -/
def parseOrRaise (p : Parser) (src : Source) (start : Int) (calls : List Nat) :
    Except Fault Value × Progress :=
  let (outcome, s) := p.parse src start calls
  (outcome.bind (·.unwrap (some src)), s)

end Parser

namespace Label

def shown : Label → String
  | .named name => Text.quote name
  | .bare text => text

end Label

/-- A filter in writing. Diagnostics all look alike. -/
def Layer.shown (layer : Layer) (inner : String) : String :=
  layer.variant.name ++ "(" ++ inner ++ ", " ++ layer.value.shown ++
    (if layer.diagnostic.isSome then ", OrElse(<diag>)" else "") ++ ")"

def Parser.shown : Parser → String
  | .fn label _ => "<FnParser " ++ label.shown ++ ">"
  | .filter inner layer => layer.shown inner.shown

end Sluice
