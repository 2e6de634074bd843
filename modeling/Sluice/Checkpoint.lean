import Sluice.Note
import Sluice.Stream

/-!
A position that a block of work goes back to when the block is left, unless the work was committed.
The last word counts: a result commits, and a failure or an error takes the commitment back.
-/
namespace Sluice

structure Checkpoint where
  pos : Int
  committed : Bool
  deriving DecidableEq, Repr

namespace Checkpoint

def new : Action Checkpoint :=
  return ⟨← Stream.position, false⟩

def commit (c : Checkpoint) : Checkpoint :=
  { c with committed := true }

def uncommit (c : Checkpoint) : Checkpoint :=
  { c with committed := false }

def rollback (c : Checkpoint) : Action Unit :=
  Stream.moveTo c.pos

def rollbackIfUncommitted (c : Checkpoint) : Action Unit :=
  if c.committed then pure () else c.rollback

def range (c : Checkpoint) : Action (Int × Int) :=
  return (c.pos, ← Stream.position)

/-- Everything read since the checkpoint. -/
def slice (c : Checkpoint) (src : Source) : Action Value :=
  return src.slice c.pos (← Stream.position)

/-- Commits. -/
def result (c : Checkpoint) (data : Value) : Action (Checkpoint × Reply) :=
  return (c.commit, .success none data (some (← c.range)))

/-- A silent failure at the current position. Takes a commitment back. -/
def fail (c : Checkpoint) (message : Option String) : Action (Checkpoint × Reply) :=
  return (c.uncommit, .failure none (some (← Stream.position)) .nothing message)

/-- A silent failure at the checkpoint. Takes a commitment back. -/
def failStart (c : Checkpoint) (message : Option String) : Checkpoint × Reply :=
  (c.uncommit, .failure none (some c.pos) .nothing message)

/-- An error at the current position. It goes with `uncommit`, also when no note can be written. -/
def error (src : Source) (message : Option String) : Action ParseError := do
  Action.of (ParseError.of (some src) (← Stream.position) message)

/-- Runs a block. Left by an exception it goes back whatever was committed. -/
def block (body : Checkpoint → Action (Checkpoint × α)) : Action α := fun s =>
  match body ⟨s.pos, false⟩ s with
  | .ok (c, a) t => (do c.rollbackIfUncommitted; return a) t
  | .error fault t => .error fault { t with pos := s.pos }

theorem result_run (c : Checkpoint) (data : Value) (s : Progress) :
    c.result data s = .ok (c.commit, .success none data (some (c.pos, s.pos))) s :=
  rfl

theorem fail_run (c : Checkpoint) (message : Option String) (s : Progress) :
    c.fail message s = .ok (c.uncommit, .failure none (some s.pos) .nothing message) s :=
  rfl

variable {body : Checkpoint → Action (Checkpoint × α)} {s t : Progress}

theorem block_of_committed {c : Checkpoint} {a : α} (run : body ⟨s.pos, false⟩ s = .ok (c, a) t)
    (committed : c.committed = true) : block body s = .ok a t := by
  simp only [block, run, rollbackIfUncommitted, committed]
  rfl

theorem block_of_uncommitted {c : Checkpoint} {a : α}
    (run : body ⟨s.pos, false⟩ s = .ok (c, a) t) (uncommitted : c.committed = false) :
    block body s = .ok a { t with pos := c.pos } := by
  simp only [block, run, rollbackIfUncommitted, uncommitted]
  rfl

/-- Where a block that is left normally leaves the stream. -/
theorem block_ok {a : α} (run : block body s = .ok a t) :
    ∃ c u, body ⟨s.pos, false⟩ s = .ok (c, a) u ∧
      t = if c.committed then u else { u with pos := c.pos } := by
  cases ran : body ⟨s.pos, false⟩ s with
  | error fault u =>
    simp only [block, ran] at run
    cases run
  | ok made u =>
    rcases made with ⟨⟨pos, committed⟩, b⟩
    cases committed with
    | true =>
      rw [block_of_committed ran rfl] at run
      cases run
      exact ⟨_, _, rfl, rfl⟩
    | false =>
      rw [block_of_uncommitted ran rfl] at run
      cases run
      exact ⟨_, _, rfl, rfl⟩

theorem block_of_error {fault : Fault} (run : body ⟨s.pos, false⟩ s = .error fault t) :
    block body s = .error fault { t with pos := s.pos } := by
  simp only [block, run]

end Checkpoint

end Sluice
