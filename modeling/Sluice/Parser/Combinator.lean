import Sluice.Parser

/-!
Parsers made from parsers: one after another, one or another, again and again, without consuming,
and with the data mapped. Also parsers that always come to the same end.
-/
namespace Sluice.Parser

/-- What a sequence makes of the first failure in it. -/
inductive OnFailure where
  /-- A failure where the stream stands. -/
  | fail
  /-- A failure where the sequence began. -/
  | failStart
  | error
  /-- The failure itself. -/
  | propagate
  deriving DecidableEq, Repr

/-- A parser in a sequence, with what its failure makes of the sequence. -/
structure Part where
  parser : Parser
  mode : OnFailure
  message : Option String

/-- The data of all parts in order, or the first failure and the part that it is of. -/
def runAll (src : Source) : List Part → Action (Except (Part × Reply) (List Value))
  | [] => return .ok []
  | part :: rest => do
    match ← part.parser.run src with
    | .success _ data _ => return (← runAll src rest).map (data :: ·)
    | r@(.failure ..) => return .error (part, r)

def Part.settle (part : Part) (src : Source) (c : Checkpoint) (r : Reply) :
    Action (Checkpoint × Reply) :=
  match part.mode with
  | .fail => c.fail part.message
  | .failStart => return c.failStart part.message
  | .error => do throw (.surfaced (← Checkpoint.error src part.message))
  | .propagate => return (c, r)

/-- All parts one after another, or nothing at all. -/
def sequence (parts : List Part) : Parser :=
  .fn (.named "seq") fun src => Checkpoint.block fun c => do
    match ← runAll src parts with
    | .ok data => c.result (.list data)
    | .error (part, r) => part.settle src c r

/-- The first parser that succeeds, each tried from the same position. -/
def choice (parts : List Parser) (message : Option String) : Parser :=
  .fn (.named "alt") fun src => attempt src parts
where
  attempt (src : Source) : List Parser → Action Reply
    | [] => return .failure none (some (← Stream.position)) .nothing message
    | p :: rest => do
      let save ← Savepoint.save
      let r ← p.run src
      save.guard r.truthy
      if r.truthy then return r else attempt src rest

/-- Up to `n` rounds of a parser, for as long as items are left and every round gets somewhere. -/
def rounds (src : Source) (p : Parser) : Nat → Action (List Value)
  | 0 => throw .endless
  | n + 1 => do
    let pos ← Stream.position
    if src.atEnd pos then return []
    else
      let save ← Savepoint.save
      let r ← p.run src
      save.guard r.truthy
      match r with
      | .success _ data _ =>
        if (← Stream.position) = pos then return []
        else return data :: (← rounds src p n)
      | .failure .. => return []

/-- How many rounds are waited for. A position met again is met for ever, so a repetition that ends
takes at most as many rounds as there are positions that it can visit: those that the source and the
start span, and some beyond them for parsers that jump back to the left of everything. -/
def patience (src : Source) (pos : Int) : Nat :=
  2 * (src.length + pos.natAbs) + 10000

/-- A parser as often as it succeeds and moves. -/
def many (p : Parser) : Parser :=
  .fn (.named "many") fun src => Checkpoint.block fun c => do
    c.result (.list (← rounds src p (patience src c.pos)))

/-- What a parser would say, with the stream put back. -/
def look (p : Parser) : Parser :=
  .fn (.named "look") fun src => do
    let save ← Savepoint.save
    let r ← p.run src
    save.rollback
    return r

def map (p : Parser) (f : Value → Except Fault Value) : Parser :=
  .fn (.named "<lambda>") fun src => do
    let r ← p.run src
    let next ← r.map fun v => Action.of (f v)
    return next.reply r

/-- Always one and the same response, after moving on by `width`. -/
def result (r : Reply) (width : Int) : Parser :=
  .fn (.named "result") fun _ => do
    Stream.advance width
    return r

/-- Always the same data, found in the next `width` items. -/
def constant (data : Value) (width : Int) : Parser :=
  .fn (.named "constant") fun _ => do
    let start ← Stream.position
    Stream.advance width
    return .success none data (some (start, ← Stream.position))

def failing (r : Reply) : Parser :=
  .fn (.named "<lambda>") fun _ => return r

/-- What a parser can stop with. -/
inductive Raised where
  | error (message : Option String)
  | exception (kind : Kind) (text : String)

/-- Always stops, after moving on by `width`. -/
def raising (what : Raised) (width : Int) : Parser :=
  .fn (.named "raising") fun src => Checkpoint.block fun (_ : Checkpoint) => do
    Stream.advance width
    match what with
    | .error message => throw (.surfaced (← Checkpoint.error src message))
    | .exception kind text => throw (.raised kind text)

/-- Reads nothing and finds nothing, and has no name. -/
def unnamed : Parser :=
  .fn (.bare "<callable>") fun _ => return .success none .nothing none

end Sluice.Parser
