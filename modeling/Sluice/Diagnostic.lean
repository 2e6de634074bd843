import Sluice.Stream

/-!
Diagnostics: what is asked for a value when a filter rejects one.
-/
namespace Sluice

structure Diagnostic where
  /-- Two diagnostics of one number are the same. -/
  number : Nat
  /-- The answer to its `n`-th call, counted from one. -/
  answer : Nat → Except Fault Value

namespace Diagnostic

/-- How often the diagnostic of a number has been called. -/
def count (calls : List Nat) (number : Nat) : Nat :=
  calls.count number

/-- A call counts whether or not an answer comes back. -/
def call (d : Diagnostic) : Action Value := do
  modify fun s => { s with calls := d.number :: s.calls }
  Action.of (d.answer (count (← get).calls d.number))

theorem call_run (d : Diagnostic) (s : Progress) :
    d.call s = match d.answer (count (d.number :: s.calls) d.number) with
      | .ok v => .ok v { s with calls := d.number :: s.calls }
      | .error fault => .error fault { s with calls := d.number :: s.calls } := by
  change Action.of (d.answer (count (d.number :: s.calls) d.number))
    { s with calls := d.number :: s.calls } = _
  cases d.answer (count (d.number :: s.calls) d.number) <;> rfl

theorem call_stays (d : Diagnostic) : Action.Stays d.call := by
  intro s
  rw [call_run]
  cases d.answer (count (d.number :: s.calls) d.number) <;> rfl

/-- The ways of answering that can be written down. -/
inductive Behaviour where
  | value (v : Value)
  | raises (kind : Kind) (text : String)
  /-- The number of the call. -/
  | nth

def Behaviour.answer : Behaviour → Nat → Except Fault Value
  | .value v, _ => .ok v
  | .raises kind text, _ => .error (.raised kind text)
  | .nth, n => .ok (.int n)

end Diagnostic

end Sluice
