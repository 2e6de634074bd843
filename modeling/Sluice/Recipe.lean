import Sluice.Parser.Builder
import Sluice.Parser.Bundled
import Sluice.Parser.Combinator
import Sluice.Value.Mapping

/-!
Parsers in writing. A recipe is built from the inside out on a workbench, which numbers the
diagnostics in the order in which they are met and keeps a log of the words that were refused.
-/
namespace Sluice

inductive Recipe where
  | item
  | blanks
  | integer
  | take (amount : Int)
  | literal (patterns : List Value)
  | eq (inner : Recipe) (value : Value)
  | ne (inner : Recipe) (value : Value)
  | orElse (inner : Recipe) (answers : Diagnostic.Behaviour)
  | negate (form : Parser.Negation) (inner : Recipe)
  /-- A filter put together at once, without words. -/
  | filter (direction : Direction) (inner : Recipe) (value : Value)
      (answers : Option Diagnostic.Behaviour)
  /-- A parser made before. -/
  | ref (i : Nat)
  | result (r : Reply) (width : Int)
  | constant (data : Value) (width : Int)
  | failing (r : Reply)
  | raising (what : Parser.Raised) (width : Int)
  | sequence (parts : List Recipe) (mode : Parser.OnFailure) (message : Option String)
  | choice (parts : List Recipe) (message : Option String)
  | many (inner : Recipe)
  | look (inner : Recipe)
  | map (inner : Recipe) (f : Mapping)
  | unnamed

/-- A parser together with the marks that tell which objects it is made of. -/
structure Made where
  parser : Parser
  mark : Nat
  /-- Of a filter, the mark of the parser in it. -/
  innerMark : Nat
  /-- Of a filter, the mark of the value it was given. -/
  valueMark : Nat

structure Workbench where
  /-- How many diagnostics there are. -/
  diagnostics : Nat
  /-- How many marks are taken. -/
  marks : Nat
  log : List String
  deriving DecidableEq, Repr

/-- The first marks belong to the bundled parsers that exist only once. -/
def Workbench.empty : Workbench :=
  ⟨0, 3, []⟩

/-- A step of building. What a refused step has registered stays registered. -/
abbrev Build := EStateM Fault Workbench

namespace Build

def mark : Build Nat := do
  let bench ← get
  set { bench with marks := bench.marks + 1 }
  return bench.marks

def register (answers : Diagnostic.Behaviour) : Build Diagnostic := do
  let bench ← get
  set { bench with diagnostics := bench.diagnostics + 1 }
  return ⟨bench.diagnostics, answers.answer⟩

/-- A refusal that is worth a record goes to the log first. -/
def settle : Except Fault α → Build α
  | .ok a => pure a
  | .error fault => do
    modify fun bench => { bench with log := bench.log ++ fault.logged?.toList }
    throw fault

def fresh (parser : Parser) : Build Made := do
  let mark ← mark
  return ⟨parser, mark, mark, mark⟩

/-- A filter on a parser, with a value of its own. -/
def stack (inner : Made) (parser : Parser) : Build Made := do
  return ⟨parser, ← mark, inner.mark, ← mark⟩

/-- A filter made from a filter: the parser in it and the value are shared. -/
def vary (filter : Made) (parser : Except Fault Parser) : Build Made := do
  return { filter with parser := ← settle parser, mark := ← mark }

/-- Only a filter takes a diagnostic; for any other parser none is registered. -/
def diagnose (filter : Made) (answers : Diagnostic.Behaviour) : Build Made :=
  match filter.parser with
  | .fn .. => throw .takesNoDiagnostic
  | .filter .. => do
    let d ← register answers
    vary filter (filter.parser.orElse d)

end Build

namespace Recipe

mutual

def build (shelf : List Made) : Recipe → Build Made
  | .item => return ⟨.item, 0, 0, 0⟩
  | .blanks => return ⟨.blanks, 1, 1, 1⟩
  | .integer => return ⟨.integer, 2, 2, 2⟩
  | .take amount => do Build.fresh (← Build.settle (Parser.take amount))
  | .literal patterns => do Build.fresh (← Build.settle (Parser.literal patterns))
  | .eq inner value => do
    let made ← build shelf inner
    Build.stack made (made.parser.eq value)
  | .ne inner value => do
    let made ← build shelf inner
    Build.stack made (made.parser.ne value)
  | .orElse inner answers => do Build.diagnose (← build shelf inner) answers
  | .negate form inner => do
    let made ← build shelf inner
    Build.vary made (made.parser.negate form)
  | .filter direction inner value answers => do
    let made ← build shelf inner
    let diagnostic ← answers.mapM Build.register
    Build.stack made (.filter made.parser ⟨direction, value, diagnostic⟩)
  | .ref i => match shelf[i]? with
    | some made => pure made
    | none => throw (.outOfRange .list)
  | .result r width => Build.fresh (.result r width)
  | .constant data width => Build.fresh (.constant data width)
  | .failing r => Build.fresh (.failing r)
  | .raising what width => Build.fresh (.raising what width)
  | .sequence parts mode message => do
    let parsers ← buildAll shelf parts
    Build.fresh (.sequence (parsers.map fun parser => ⟨parser, mode, message⟩))
  | .choice parts message => do Build.fresh (.choice (← buildAll shelf parts) message)
  | .many inner => do Build.fresh (.many (← build shelf inner).parser)
  | .look inner => do Build.fresh (.look (← build shelf inner).parser)
  | .map inner f => do Build.fresh ((← build shelf inner).parser.map f.apply)
  | .unnamed => Build.fresh .unnamed

def buildAll (shelf : List Made) : List Recipe → Build (List Parser)
  | [] => return []
  | recipe :: rest => do
    let made ← build shelf recipe
    return made.parser :: (← buildAll shelf rest)

end

end Recipe

end Sluice
