import Sluice.Recipe

/-!
Programs over one stream: operations on it, on the savepoints and checkpoints made along the way,
and blocks that go back when they are left uncommitted. An error leaves all blocks around it up to
the nearest one that catches it.
-/
namespace Sluice.Script

/-- What one operation does. Savepoints and checkpoints go by their numbers, in the order in which
they were made. -/
inductive Operation where
  | length
  | notAtEnd
  | atEnd
  | item
  | get (i : Int)
  | stride (a b step : Option Int)
  | hasItems (amount : Int)
  | peek (amount : Int)
  | take (amount : Int)
  | literal (pattern : Value)
  | oneOf (patterns : List Value)
  | moveTo (pos : Int)
  | parse (recipe : Recipe)
  | save
  | restore (i : Nat)
  | savedRange (i : Nat)
  | guard (i : Nat) (v : Value)
  /-- Guards the latest answer. -/
  | guardLast (i : Nat)
  | checkpoint
  | commit (i : Nat)
  | rollback (i : Nat)
  | rollbackIfUncommitted (i : Nat)
  | committed (i : Nat)
  | range (i : Nat)
  | slice (i : Nat)
  | result (i : Nat) (data : Value)
  | fail (i : Nat) (message : Option String)
  | failStart (i : Nat) (message : Option String)
  | error (i : Nat) (message : Option String)
  | raiseError (i : Nat) (message : Option String)
  | raise (kind : Kind) (text : String)

inductive Step where
  | operation (op : Operation)
  /-- A block on a checkpoint made before, or on a new one. -/
  | block (entered : Option Nat) (body : List Step)
  /-- Goes on after an error in its body. -/
  | attempt (body : List Step)

inductive Answer where
  | value (v : Value)
  | error (e : ParseError)

def Answer.truthy : Answer → Bool
  | .value v => v.truthy
  | .error _ => true

/-- One line of the account of a run, with the position afterwards. A block is entered under the
number of its checkpoint when it is left. -/
inductive Entry where
  | answered (op : Operation) (answer : Answer) (pos : Int)
  | raised (op : Operation) (fault : Fault) (pos : Int)
  | left (i : Nat) (fault : Option Fault) (pos : Int)
  | caught (fault : Option Fault) (pos : Int)

structure Desk where
  progress : Progress
  savepoints : List Savepoint
  checkpoints : List Checkpoint
  bench : Workbench
  last : Answer
  /-- The latest entry first. -/
  account : List Entry

def Desk.new (pos : Int) : Desk :=
  ⟨⟨pos, []⟩, [], [], .empty, .value .nothing, []⟩

/-- A step of a program. An error leaves everything done before it in place. -/
abbrev Act := EStateM Fault Desk

def onStream (act : Action α) : Act α := fun d =>
  match act d.progress with
  | .ok a progress => .ok a { d with progress }
  | .error fault progress => .error fault { d with progress }

def onBench (act : Build α) : Act α := fun d =>
  match act d.bench with
  | .ok a bench => .ok a { d with bench }
  | .error fault bench => .error fault { d with bench }

def lookUp (xs : List α) (i : Nat) : Act α :=
  match xs[i]? with
  | some a => pure a
  | none => throw (.outOfRange .list)

def savepointAt (i : Nat) : Act Savepoint := do
  lookUp (← get).savepoints i

def checkpointAt (i : Nat) : Act Checkpoint := do
  lookUp (← get).checkpoints i

/-- Puts a checkpoint in the place of its former state. -/
def store (i : Nat) (c : Checkpoint) : Act Unit :=
  modify fun d => { d with checkpoints := d.checkpoints.set i c }

/-- The number of a new savepoint where the stream stands. -/
def newSavepoint : Act Nat := do
  let save ← onStream Savepoint.save
  let d ← get
  set { d with savepoints := d.savepoints ++ [save] }
  return d.savepoints.length

/-- The number of a new checkpoint where the stream stands. -/
def newCheckpoint : Act Nat := do
  let c ← onStream Checkpoint.new
  let d ← get
  set { d with checkpoints := d.checkpoints ++ [c] }
  return d.checkpoints.length

/-- The error of a checkpoint. The checkpoint is uncommitted even if no note can be written. -/
def errorOf (src : Source) (i : Nat) (message : Option String) : Act ParseError := do
  store i (← checkpointAt i).uncommit
  onStream (Checkpoint.error src message)

def latest : Act Answer :=
  return (← get).last

def answer (v : Value) : Act Answer :=
  return .value v

def answerInt (n : Int) : Act Answer :=
  answer (.int n)

def answerBool (b : Bool) : Act Answer :=
  answer (.bool b)

def answerReply (i : Nat) (made : Checkpoint × Reply) : Act Answer := do
  store i made.1
  answer (.response made.2)

def Operation.perform (src : Source) : Operation → Act Answer
  | .length => answerInt src.length
  | .notAtEnd => do answerBool (!src.atEnd (← onStream Stream.position))
  | .atEnd => do answerBool (src.atEnd (← onStream Stream.position))
  | .item => do answer (← onStream (Stream.item src))
  | .get i => do answer (← onStream (Action.of (src.item i)))
  | .stride a b step => do answer (← onStream (Action.of (src.stride a b step)))
  | .hasItems amount => do answerBool (src.hasItems (← onStream Stream.position) amount)
  | .peek amount => do answer (.ofOption (src.peek (← onStream Stream.position) amount))
  | .take amount => do answer (.ofOption (← onStream (Stream.take src amount)))
  | .literal pattern => do answerBool (← onStream (Stream.literal src pattern))
  | .oneOf patterns => do answer (.ofOption (← onStream (Stream.oneOf src patterns)))
  | .moveTo pos => do
    onStream (Stream.moveTo pos)
    answer .nothing
  | .parse recipe => do
    let made ← onBench (recipe.build [])
    answer (.response (← onStream (made.parser.run src)))
  | .save => do answerInt (← newSavepoint)
  | .restore i => do
    onStream (← savepointAt i).rollback
    answer .nothing
  | .savedRange i => do answer (.pair (← onStream (← savepointAt i).range))
  | .guard i v => do
    onStream ((← savepointAt i).guard v.truthy)
    answer v
  | .guardLast i => do
    let last ← latest
    onStream ((← savepointAt i).guard last.truthy)
    return last
  | .checkpoint => do answerInt (← newCheckpoint)
  | .commit i => do
    store i (← checkpointAt i).commit
    answer .nothing
  | .rollback i => do
    onStream (← checkpointAt i).rollback
    answer .nothing
  | .rollbackIfUncommitted i => do
    onStream (← checkpointAt i).rollbackIfUncommitted
    answer .nothing
  | .committed i => do answerBool (← checkpointAt i).committed
  | .range i => do answer (.pair (← onStream (← checkpointAt i).range))
  | .slice i => do answer (← onStream ((← checkpointAt i).slice src))
  | .result i data => do answerReply i (← onStream ((← checkpointAt i).result data))
  | .fail i message => do answerReply i (← onStream ((← checkpointAt i).fail message))
  | .failStart i message => do answerReply i ((← checkpointAt i).failStart message)
  | .error i message => return .error (← errorOf src i message)
  | .raiseError i message => do throw (.surfaced (← errorOf src i message))
  | .raise kind text => throw (.raised kind text)

/-- Adds to the account. -/
def note (entry : Int → Entry) : Act Unit :=
  modify fun d => { d with account := entry d.progress.pos :: d.account }

/-- An answer is kept as the latest one, and an error goes on after it is noted. -/
def Operation.run (src : Source) (op : Operation) : Act Unit := fun d =>
  match op.perform src d with
  | .ok answer d => note (.answered op answer) { d with last := answer }
  | .error fault d => (do note (.raised op fault); throw fault) d

/-- The checkpoint that a block is entered on, with its number. -/
def enter (entered : Option Nat) : Act (Nat × Checkpoint) := do
  let i ← match entered with
    | some i => pure i
    | none => newCheckpoint
  return (i, ← checkpointAt i)

/-- Leaves a block after its body. An error goes on. -/
def leave (i : Nat) (c : Checkpoint) :
    EStateM.Result Fault Desk Unit → EStateM.Result Fault Desk Unit
  | .ok _ d => (do onStream (← checkpointAt i).rollbackIfUncommitted; note (.left i none)) d
  | .error fault d => (do onStream c.rollback; note (.left i (some fault)); throw fault) d

mutual

def Step.run (src : Source) : Step → Act Unit
  | .operation op => op.run src
  | .block entered body => do
    let (i, c) ← enter entered
    fun d => leave i c (runAll src body d)
  | .attempt body => fun d => match runAll src body d with
    | .ok _ d => note (.caught none) d
    | .error fault d => note (.caught (some fault)) d

def runAll (src : Source) : List Step → Act Unit
  | [] => pure ()
  | step :: rest => do
    step.run src
    runAll src rest

end

/-- The desk at the end of a whole program. An error that nothing catches ends the step it is in and
no more. -/
def finish (src : Source) (start : Int) (steps : List Step) : Desk :=
  steps.foldl (fun d step => ending (step.run src d)) (Desk.new start)

/-- The account of a whole program, in order. -/
def run (src : Source) (start : Int) (steps : List Step) : List Entry :=
  (finish src start steps).account.reverse

end Sluice.Script
