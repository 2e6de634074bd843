import Sluice.Diagnostic
import Sluice.Response
import Sluice.Value.Equality
import Sluice.Value.Mapping

/-!
A response sent through a list of steps. Each step starts from what the one before it handed on; a
step that raises an error hands on what it was given.
-/
namespace Sluice.Pipeline

inductive Predicate where
  | equals (v : Value)
  | differs (v : Value)
  | answers (v : Value)
  | raises (kind : Kind) (text : String)

def Predicate.apply : Predicate → Value → Except Fault Value
  | .equals v, x => x.equals v
  | .differs v, x => x.differs v
  | .answers v, _ => .ok v
  | .raises kind text, _ => .error (.raised kind text)

inductive Step where
  | filter (p : Predicate)
  | filterOrElse (p : Predicate) (answers : Diagnostic.Behaviour)
  | map (f : Mapping)
  | unwrap (src : Option Source)
  | toError (src : Option Source)
  | truth
  | value
  | error
  | shown
  | hash
  | equals (v : Value)
  | differs (v : Value)

/-- What a step asked of the functions it was given: the arguments of the predicate in order, and
the number of calls of the diagnostic. -/
structure Asked where
  arguments : List Value
  calls : Nat

inductive Answer where
  | value (v : Value)
  | error (e : ParseError)
  /-- The response from here on. -/
  | next (n : Response.Next)

structure Outcome where
  answer : Except Fault Answer
  asked : Asked

abbrev Act := EStateM Fault Asked

def settle : Except Fault α → Act α
  | .ok a => pure a
  | .error fault => throw fault

def ask (p : Predicate) (v : Value) : Act Bool := do
  modify fun a => { a with arguments := a.arguments ++ [v] }
  return (← settle (p.apply v)).truthy

def consult (answers : Diagnostic.Behaviour) : Act Value := do
  modify fun a => { a with calls := a.calls + 1 }
  settle (answers.answer (← get).calls)

def typeName (r : Reply) : String :=
  (Value.response r).typeName

def Step.perform (r : Reply) : Step → Act Answer
  | .filter p => return .next (← r.filter (ask p))
  | .filterOrElse p answers => return .next (← r.filterOrElse (ask p) (consult answers))
  | .map f => return .next (← r.map fun v => settle (f.apply v))
  | .unwrap src => return .value (← settle (r.unwrap src))
  | .toError src => return .error (← settle (r.toError src))
  | .truth => return .value (.bool r.truthy)
  | .value => return .value r.value
  | .error => return .value r.error
  | .shown => return .value (.text r.shown)
  | .hash => throw (.unhashable (typeName r))
  | .equals v => return .value (← settle ((Value.response r).equals v))
  | .differs v => return .value (← settle ((Value.response r).differs v))

def Step.run (r : Reply) (step : Step) : Outcome × Reply :=
  match step.perform r ⟨[], 0⟩ with
  | .ok (.next n) asked => (⟨.ok (.next n), asked⟩, n.reply r)
  | .ok answer asked => (⟨.ok answer, asked⟩, r)
  | .error fault asked => (⟨.error fault, asked⟩, r)

/-- Every outcome with the response after it. -/
def run (r : Reply) : List Step → List (Outcome × Reply)
  | [] => []
  | step :: rest =>
    let (outcome, next) := step.run r
    (outcome, next) :: run next rest

end Sluice.Pipeline
