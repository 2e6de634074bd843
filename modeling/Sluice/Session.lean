import Sluice.Recipe

/-!
A session defines parsers one after another, each possibly in terms of earlier ones, and runs them.
The diagnostics called in one run are still counted in the next.
-/
namespace Sluice

structure Session where
  shelf : List Made
  diagnostics : Nat
  marks : Nat
  calls : List Nat

namespace Session

def empty : Session :=
  ⟨[], Workbench.empty.diagnostics, Workbench.empty.marks, []⟩

/-- The parts of a filter that two filters can share. -/
inductive Part where
  | parser
  | value
  | diagnostic
  deriving DecidableEq, Repr

inductive Step where
  | define (recipe : Recipe)
  | show (i : Nat)
  | assign (i : Nat) (field : String)
  | delete (i : Nat) (field : String)
  | parse (i : Nat) (src : Source) (start : Int)
  | parseOrRaise (i : Nat) (src : Source) (start : Int)
  | shared (i j : Nat) (part : Part)
  | parseTwice (i : Nat) (src : Source) (start : Int)

inductive Answer where
  | shown (parser : Parser)
  | value (v : Value)
  /-- The answer to `==` between two responses, and whether they are one object. -/
  | compared (equal : Value) (same : Bool)

structure Outcome where
  answer : Except Fault Answer
  log : List String

/-- How often each diagnostic has been called, in the order of their numbers. -/
def counts (s : Session) : List Nat :=
  (List.range s.diagnostics).map (Diagnostic.count s.calls)

def made (s : Session) (i : Nat) : Except Fault Made :=
  match s.shelf[i]? with
  | some made => .ok made
  | none => .error (.outOfRange .list)

/-- Whether two filters have a part in common. Filters without a diagnostic have that in common, and
so have filters that compare with nothing. -/
def share (a b : Made) (part : Part) : Bool :=
  match a.parser, b.parser with
  | .filter _ p, .filter _ q => match part with
    | .parser => a.innerMark == b.innerMark
    | .value => a.valueMark == b.valueMark || (p.value.isNothing && q.value.isNothing)
    | .diagnostic => p.diagnostic.map (·.number) == q.diagnostic.map (·.number)
  | _, _ => false

def define (s : Session) (recipe : Recipe) : Outcome × Session :=
  let remember (bench : Workbench) : Session :=
    { s with diagnostics := bench.diagnostics, marks := bench.marks }
  match recipe.build s.shelf ⟨s.diagnostics, s.marks, []⟩ with
  | .ok made bench =>
    (⟨.ok (.shown made.parser), bench.log⟩, { remember bench with shelf := s.shelf ++ [made] })
  | .error fault bench => (⟨.error fault, bench.log⟩, remember bench)

def parse (s : Session) (i : Nat) (src : Source) (start : Int) : Except Fault Reply × Session :=
  match s.made i with
  | .ok made =>
    let (outcome, progress) := made.parser.parse src start s.calls
    (outcome, { s with calls := progress.calls })
  | .error fault => (.error fault, s)

/-- The responses of two runs, compared. -/
def compare (x y : Reply) : Except Fault Answer := do
  let equal ← (Value.response x).equals (.response y)
  return .compared equal (x.self.same y.self)

/-- Nothing but a refusal can come of changing a parser. -/
def refusal (s : Session) (i : Nat) (change : Parser → Option Fault) : Except Fault Answer := do
  match change (← s.made i).parser with
  | some fault => throw fault
  | none => return .value .nothing

/-- Only building a parser writes to the log. -/
def quietly (s : Session) (answer : Except Fault Answer) : Outcome × Session :=
  (⟨answer, []⟩, s)

def step (s : Session) : Step → Outcome × Session
  | .define recipe => s.define recipe
  | .show i => s.quietly ((s.made i).map fun made => .shown made.parser)
  | .assign i field => s.quietly (s.refusal i (·.assign field))
  | .delete i field => s.quietly (s.refusal i (·.delete field))
  | .parse i src start =>
    let (outcome, s) := s.parse i src start
    s.quietly (outcome.map fun r => .value (.response r))
  | .parseOrRaise i src start =>
    let (outcome, s) := s.parse i src start
    s.quietly ((outcome.bind (·.unwrap (some src))).map .value)
  | .shared i j part =>
    s.quietly (do return .value (.bool (share (← s.made i) (← s.made j) part)))
  | .parseTwice i src start =>
    let (first, s) := s.parse i src start
    match first with
    | .error fault => s.quietly (.error fault)
    | .ok x =>
      let (second, s) := s.parse i src start
      s.quietly (second.bind (compare x))

/-- All outcomes in order, each with the counts of the calls so far. -/
def run (s : Session) : List Step → List (Outcome × List Nat)
  | [] => []
  | first :: rest =>
    let (outcome, s) := s.step first
    (outcome, s.counts) :: s.run rest

end Session

end Sluice
