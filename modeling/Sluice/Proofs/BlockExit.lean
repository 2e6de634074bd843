import Sluice.Proofs.Commitment

/-!
Leaving blocks. Whatever a block's body does, the stream stands at the saved position of the block's
checkpoint when the block is left, unless the body came to its end and the last word on that
checkpoint committed it. An error leaves all blocks around it.
-/
namespace Sluice.Script

def Entry.pos : Entry → Int
  | .answered _ _ pos | .raised _ _ pos | .left _ _ pos | .caught _ pos => pos

/-- Where the stream stands after some entries, the latest first, having stood at `start`. -/
def standing (account : List Entry) (start : Int) : Int :=
  (account.head?.map Entry.pos).getD start

theorem standing_append (later earlier : List Entry) (start : Int) :
    standing (later ++ earlier) start = standing later (standing earlier start) := by
  cases later <;> rfl

/-- The position at which a block is left: where its body left the stream, if the body came to its
end on a committed checkpoint. -/
def exitPos (fault : Option Fault) (committed : Bool) (reached saved : Int) : Int :=
  if fault = none ∧ committed = true then reached else saved

/-- What holds between two desks of a run after some new entries, the latest first. -/
structure Desk.After (d : Desk) (new : List Entry) (d' : Desk) : Prop where
  account : d'.account = new ++ d.account
  pos : d'.progress.pos = standing new d.progress.pos
  saved : ∀ i pos, d.saved i = some pos → d'.saved i = some pos
  committed : ∀ i, d'.committed i = (lastWord i new).getD (d.committed i)
  exits : ∀ later i fault pos earlier, new = later ++ .left i fault pos :: earlier →
    ∃ saved, d'.saved i = some saved ∧
      pos = exitPos fault ((lastWord i earlier).getD (d.committed i))
        (standing earlier d.progress.pos) saved

open Desk (Heard After)

namespace Desk

/-- A step that adds no entry and does not move. -/
theorem After.of_heard {d d' : Desk} (heard : Heard none d d')
    (still : d'.progress.pos = d.progress.pos) : After d [] d' :=
  ⟨heard.account, still, heard.saved, heard.committed, fun later i fault pos earlier split => by
    cases later <;> cases split⟩

theorem After.refl (d : Desk) : After d [] d :=
  .of_heard (.refl d) rfl

theorem After.trans {a b c : Desk} {first rest : List Entry} (one : After a first b)
    (two : After b rest c) : After a (rest ++ first) c := by
  refine ⟨?_, ?_, fun i pos h => two.saved i pos (one.saved i pos h), fun i => ?_, ?_⟩
  · rw [two.account, one.account, List.append_assoc]
  · rw [two.pos, one.pos, standing_append]
  · rw [two.committed, one.committed, lastWord_append]
    cases lastWord i rest <;> rfl
  · intro later i fault pos earlier split
    rcases List.append_eq_append_iff.mp split with ⟨mid, rfl, inFirst⟩ | ⟨mid, inRest, inFirst⟩
    · obtain ⟨saved, held, exit⟩ := one.exits mid i fault pos earlier inFirst
      exact ⟨saved, two.saved i saved held, exit⟩
    · cases mid with
      | nil =>
        obtain ⟨saved, held, exit⟩ := one.exits [] i fault pos earlier inFirst.symm
        exact ⟨saved, two.saved i saved held, exit⟩
      | cons entry mid =>
        rw [List.cons_append] at inFirst
        obtain ⟨rfl, rfl⟩ := List.cons.inj inFirst
        obtain ⟨saved, held, exit⟩ := two.exits later i fault pos mid inRest
        refine ⟨saved, held, exit.trans ?_⟩
        rw [one.committed, one.pos, lastWord_append, standing_append]
        cases lastWord i mid <;> rfl

/-- One entry that leaves no block. -/
theorem After.of_entry {d d' : Desk} {entry : Entry} {c : Desk} (heard : Heard entry.word? d c)
    (checkpoints : d'.checkpoints = c.checkpoints) (account : d'.account = entry :: c.account)
    (pos : d'.progress.pos = entry.pos) (no_exit : ∀ i fault pos, entry ≠ .left i fault pos) :
    After d [entry] d' := by
  have kept : Heard none c { d' with account := c.account } := .of_eq checkpoints rfl
  refine ⟨by rw [account, heard.account]; rfl, pos,
    fun i pos h => kept.saved i pos (heard.saved i pos h), fun i => ?_, ?_⟩
  · rw [show d'.committed i = c.committed i from kept.committed i, heard.committed]
    simp only [lastWord, List.findSome?_cons, List.findSome?_nil]
    cases entry.word?.bind (·.about? i) <;> rfl
  · intro later i fault pos earlier split
    cases later with
    | nil => exact absurd (List.cons.inj split).1 (no_exit i fault pos)
    | cons _ later => cases later <;> cases split

/-- The desk after a block is left. -/
def exited (d : Desk) (i : Nat) (fault : Option Fault) (pos : Int) : Desk :=
  { d with progress := { d.progress with pos }, account := .left i fault pos :: d.account }

theorem After.of_exit {d : Desk} {i : Nat} {saved : Int} (held : d.saved i = some saved)
    (fault : Option Fault) :
    let pos := exitPos fault (d.committed i) d.progress.pos saved
    After d [.left i fault pos] (d.exited i fault pos) := by
  refine ⟨rfl, rfl, fun _ _ h => h, fun _ => rfl, ?_⟩
  intro later j fault' pos earlier split
  cases later with
  | nil => cases split; exact ⟨saved, held, rfl⟩
  | cons _ later => cases later <;> cases split

end Desk

theorem Operation.run_after (src : Source) (op : Operation) (d : Desk) :
    ∃ new, After d new (ending (op.run src d)) := by
  simp only [Operation.run]
  cases run : op.perform src d with
  | ok answer c =>
    exact ⟨[.answered op answer c.progress.pos],
      .of_entry (perform_answered run) rfl rfl rfl nofun⟩
  | error fault c =>
    exact ⟨[.raised op fault c.progress.pos], .of_entry (perform_raised run) rfl rfl rfl nofun⟩

section
variable {entered : Option Nat} {i : Nat} {c : Checkpoint} {d d' : Desk}

theorem enter_at (i : Nat) (d : Desk) :
    enter (some i) d = match d.checkpoints[i]? with
      | some c => .ok (i, c) d
      | none => .error (.outOfRange .list) d := by
  simp only [enter, pure_bind, Action.bind_run, checkpointAt_run]
  cases d.checkpoints[i]? <;> rfl

theorem enter_fresh (d : Desk) :
    enter none d = .ok (d.checkpoints.length, ⟨d.progress.pos, false⟩)
      { d with checkpoints := d.checkpoints ++ [⟨d.progress.pos, false⟩] } := by
  have made : newCheckpoint d = .ok d.checkpoints.length
      { d with checkpoints := d.checkpoints ++ [⟨d.progress.pos, false⟩] } := rfl
  simp only [enter, made, Action.bind_run, checkpointAt_run, List.getElem?_concat_length]
  rfl

/-- A block that is entered is on a checkpoint there is. -/
theorem enter_ok (run : enter entered d = .ok (i, c) d') :
    After d [] d' ∧ d'.saved i = some c.pos := by
  cases entered with
  | some j =>
    rw [enter_at] at run
    cases found : d.checkpoints[j]? with
    | none =>
      rw [found] at run
      cases run
    | some c =>
      rw [found] at run
      cases run
      exact ⟨.refl d, by simp only [Desk.saved, found, Option.map_some]⟩
  | none =>
    rw [enter_fresh] at run
    cases run
    refine ⟨.of_heard (Silent.newCheckpoint d) rfl, ?_⟩
    simp only [Desk.saved, List.getElem?_concat_length, Option.map_some]

theorem enter_error {fault : Fault} (run : enter entered d = .error fault d') : d' = d := by
  cases entered with
  | some j =>
    rw [enter_at] at run
    split at run <;> cases run
    rfl
  | none =>
    rw [enter_fresh] at run
    cases run

theorem leave_ok (held : d.saved i = some c.pos) :
    leave i c (.ok () d) =
      .ok () (d.exited i none (exitPos none (d.committed i) d.progress.pos c.pos)) := by
  obtain ⟨⟨pos, committed⟩, found, rfl⟩ := Option.map_eq_some_iff.mp held
  simp only [leave, Action.bind_run, checkpointAt_run, found, Desk.committed, Option.any_some]
  cases committed <;> rfl

theorem leave_error (fault : Fault) :
    leave i c (.error fault d) = .error fault
      (d.exited i (some fault) (exitPos (some fault) (d.committed i) d.progress.pos c.pos)) :=
  rfl

theorem leave_after {r : EStateM.Result Fault Desk Unit}
    (held : (ending r).saved i = some c.pos) :
    ∃ new, After (ending r) new (ending (leave i c r)) := by
  cases r with
  | ok done d =>
    have left : leave i c (.ok done d) = _ := leave_ok held
    rw [left]
    exact ⟨_, .of_exit held none⟩
  | error fault d => exact ⟨_, .of_exit held (some fault)⟩

end

theorem Step.block_run (src : Source) (entered : Option Nat) (body : List Step) (d : Desk) :
    (Step.block entered body).run src d = match enter entered d with
      | .ok (i, c) d₀ => leave i c (runAll src body d₀)
      | .error fault d' => .error fault d' := by
  rw [Step.run]
  change EStateM.bind _ _ d = _
  simp only [EStateM.bind]
  cases enter entered d <;> rfl

theorem Step.attempt_run (src : Source) (body : List Step) (d : Desk) :
    (Step.attempt body).run src d = match runAll src body d with
      | .ok _ d => note (.caught none) d
      | .error fault d => note (.caught (some fault)) d := by
  unfold Step.run
  rfl

theorem caught_after (fault : Option Fault) (d : Desk) :
    After d [.caught fault d.progress.pos] (ending (note (.caught fault) d)) :=
  .of_entry (Heard.refl d) rfl rfl rfl nofun

mutual

theorem Step.run_after (src : Source) (d : Desk) :
    (step : Step) → ∃ new, After d new (ending (step.run src d))
  | .operation op => by
    rw [Step.run]
    exact op.run_after src d
  | .block entered body => by
    rw [Step.block_run]
    cases run : enter entered d with
    | error fault d' =>
      cases enter_error run
      exact ⟨[], .refl d⟩
    | ok entry d₀ =>
      obtain ⟨i, c⟩ := entry
      obtain ⟨into, held⟩ := enter_ok run
      obtain ⟨new, inside⟩ := runAll_after src d₀ body
      obtain ⟨exit, out⟩ := leave_after (inside.saved i c.pos held)
      exact ⟨_, (into.trans inside).trans out⟩
  | .attempt body => by
    obtain ⟨new, inside⟩ := runAll_after src d body
    rw [Step.attempt_run]
    cases ran : runAll src body d with
    | ok _ d' =>
      rw [ran] at inside
      exact ⟨_, inside.trans (caught_after none d')⟩
    | error fault d' =>
      rw [ran] at inside
      exact ⟨_, inside.trans (caught_after (some fault) d')⟩

theorem runAll_after (src : Source) (d : Desk) :
    (steps : List Step) → ∃ new, After d new (ending (runAll src steps d))
  | [] => by
    rw [runAll]
    exact ⟨[], .refl d⟩
  | step :: rest => by
    rw [runAll, Action.bind_run]
    obtain ⟨new, here⟩ := Step.run_after src d step
    cases ran : step.run src d with
    | ok _ d' =>
      rw [ran] at here
      obtain ⟨more, there⟩ := runAll_after src d' rest
      exact ⟨_, here.trans there⟩
    | error fault d' =>
      rw [ran] at here
      exact ⟨new, here⟩

end

/-- Steps with a block among them, and the steps before and after it. -/
structure Frame where
  before : List Step
  entered : Option Nat
  after : List Step

/-- Steps within blocks within blocks, the outermost first. -/
def wrap (inner : List Step) : List Frame → List Step
  | [] => inner
  | frame :: frames => frame.before ++ .block frame.entered (wrap inner frames) :: frame.after

/-- What the inner block committed is lost with the error that leaves the outer one. -/
example :
    (run (.text ['a', 'b']) 0 [.block none [.operation .item,
      .block none [.operation .item, .operation (.commit 1)],
      .operation (.raise .value "")]]).map Entry.pos = [1, 2, 2, 2, 2, 0] := by
  decide +kernel

end Sluice.Script
