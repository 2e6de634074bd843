import Sluice.Proofs.BlockExit
import Sluice.Proofs.ComposedRecipes

/-!
The stream stays inside the source. Nothing that a program does moves it before the beginning or
past the end, unless the program names a position itself or takes a negative amount: every position
to go back to was inside when it was saved.
-/
namespace Sluice

open Sluice.Action (Safe)
open Sluice.Response (Placed Forward)

namespace Script

/-- The operations that neither name a position nor take a negative amount, and that parse with
composed parsers only. -/
def Operation.Permitted : Operation → Prop
  | .moveTo _ | .get _ => False
  | .take amount => 0 ≤ amount
  | .parse recipe => recipe.Composed
  | _ => True

inductive Step.Permitted : Step → Prop where
  | operation {op : Operation} (own : op.Permitted) : Permitted (.operation op)
  | block {entered : Option Nat} {body : List Step} (inner : ∀ step ∈ body, Permitted step) :
      Permitted (.block entered body)
  | attempt {body : List Step} (inner : ∀ step ∈ body, Permitted step) : Permitted (.attempt body)

/-- Whether an operation is about a savepoint or a checkpoint that is not there. -/
def Operation.Misses (d : Desk) : Operation → Prop
  | .restore i | .savedRange i | .guard i _ | .guardLast i => d.savepoints[i]? = none
  | .commit i | .rollback i | .rollbackIfUncommitted i | .committed i | .range i | .slice i
  | .result i _ | .fail i _ | .failStart i _ | .error i _ | .raiseError i _ =>
    d.checkpoints[i]? = none
  | _ => False

/-- Whether an operation is about a savepoint or a checkpoint at all. -/
def Operation.refers : Operation → Bool
  | .restore _ | .savedRange _ | .guard .. | .guardLast _ | .commit _ | .rollback _
  | .rollbackIfUncommitted _ | .committed _ | .range _ | .slice _ | .result .. | .fail ..
  | .failStart .. | .error .. | .raiseError .. => true
  | _ => false

/-- The responses and errors that an operation makes report positions in the source, and what is
parsed ends no sooner than it starts. -/
def Operation.Reports (src : Source) : Operation → Answer → Prop
  | .parse _, answer => ∃ r, answer = .value (.response r) ∧ Placed src r ∧ Forward r
  | .result .., answer | .fail .., answer | .failStart .., answer =>
    ∃ r, answer = .value (.response r) ∧ Placed src r
  | .error .., answer => ∃ e, answer = .error e ∧ src.Within e.pos
  | _, _ => True

/-- An entry that tells of nothing outside the source. An item can be missed only among the
savepoints and the checkpoints. -/
def Entry.Inside (src : Source) : Entry → Prop
  | .answered op answer pos => src.Within pos ∧ op.Reports src answer
  | .raised op fault pos => src.Within pos ∧ (fault.indexes = true → op.refers = true)
  | .left _ _ pos | .caught _ pos => src.Within pos

/-- The stream, and all that it can be put back to, inside the source; and so it was before. -/
structure Desk.Inside (src : Source) (d : Desk) : Prop where
  pos : src.Within d.progress.pos
  savepoints : ∀ save ∈ d.savepoints, src.Within save.pos
  checkpoints : ∀ c ∈ d.checkpoints, src.Within c.pos
  account : ∀ entry ∈ d.account, entry.Inside src

/-- What comes of an act: all is inside the source, and the answer is good. Nothing was looked up in
vain unless it was `missed` from the start. -/
inductive Leads (src : Source) (missed : Prop) (good : α → Prop) :
    EStateM.Result Fault Desk α → Prop where
  | ok {a : α} {d : Desk} (inside : d.Inside src) (answer : good a) :
      Leads src missed good (.ok a d)
  | error {fault : Fault} {d : Desk} (inside : d.Inside src)
      (lost : fault.indexes = true → missed) : Leads src missed good (.error fault d)

def Guarded (src : Source) (misses : Desk → Prop) (good : α → Prop) (act : Act α) : Prop :=
  ∀ d, d.Inside src → Leads src (misses d) good (act d)

/-- Of an act that looks nothing up in vain. -/
def MissesNothing (_ : Desk) : Prop :=
  False

theorem Leads.of_own {src : Source} {missed : Prop} {good : α → Prop} {fault : Fault} {d : Desk}
    (inside : d.Inside src) (own : fault.indexes = false) :
    Leads src missed good (.error fault d) := by
  apply Leads.error inside
  intro indexes
  rw [own] at indexes
  cases indexes

namespace Guarded

variable {src : Source} {misses : Desk → Prop} {good : α → Prop} {better : β → Prop}

theorem pure {a : α} (answer : good a) : Guarded src misses good (pure a) :=
  fun _ inside => .ok inside answer

theorem throw {fault : Fault} (own : fault.indexes = false) :
    Guarded src misses good (throw fault : Act α) :=
  fun _ inside => .of_own inside own

/-- Only the first of two acts may look something up. -/
theorem bind {x : Act α} {f : α → Act β} (first : Guarded src misses good x)
    (rest : ∀ a, good a → Guarded src MissesNothing better (f a)) :
    Guarded src misses better (x >>= f) := by
  intro d inside
  have here := first d inside
  rw [Action.bind_run]
  generalize x d = outcome at here ⊢
  cases here with
  | error inside lost => exact .error inside lost
  | ok inside answer =>
    have there := rest _ answer _ inside
    dsimp only
    generalize f _ _ = outcome at there ⊢
    cases there with
    | ok inside answer => exact .ok inside answer
    | error inside lost => exact .error inside fun indexes => (lost indexes).elim

theorem onStream {act : Action α} (safe : Safe src good act) :
    Guarded src misses good (onStream act) := by
  intro d inside
  have there := safe d.progress inside.pos
  unfold Script.onStream
  generalize act d.progress = outcome at there ⊢
  cases there with
  | ok answer within => exact .ok { inside with pos := within } answer
  | error own within => exact .of_own { inside with pos := within } own

theorem onBench {act : Build α} (makes : Build.Makes good act) :
    Guarded src misses good (onBench act) := by
  intro d inside
  have there := makes d.bench
  unfold Script.onBench
  generalize act d.bench = outcome at there ⊢
  cases outcome with
  | ok a bench => exact .ok { inside with } there
  | error fault bench => exact .of_own { inside with } there

theorem savepointAt (i : Nat) :
    Guarded src (fun d => d.savepoints[i]? = none) (fun save => src.Within save.pos)
      (savepointAt i) := by
  intro d inside
  change Leads src _ _ (lookUp d.savepoints i d)
  unfold lookUp
  cases found : d.savepoints[i]? with
  | none => exact .error inside fun _ => found
  | some save => exact .ok inside (inside.savepoints save (List.mem_of_getElem? found))

theorem checkpointAt (i : Nat) :
    Guarded src (fun d => d.checkpoints[i]? = none) (fun c => src.Within c.pos)
      (checkpointAt i) := by
  intro d inside
  rw [checkpointAt_run]
  cases found : d.checkpoints[i]? with
  | none => exact .error inside fun _ => found
  | some c => exact .ok inside (inside.checkpoints c (List.mem_of_getElem? found))

theorem store {c : Checkpoint} (saved : src.Within c.pos) (i : Nat) :
    Guarded src misses Anything (store i c) := by
  intro d inside
  have kept : ∀ c' ∈ d.checkpoints.set i c, src.Within c'.pos := by
    intro c' member
    rcases List.mem_or_eq_of_mem_set member with there | rfl
    · exact inside.checkpoints c' there
    · exact saved
  exact .ok { inside with checkpoints := kept } trivial

theorem newSavepoint : Guarded src misses Anything newSavepoint := by
  intro d inside
  have kept : ∀ save ∈ d.savepoints ++ [⟨d.progress.pos⟩], src.Within save.pos := by
    intro save member
    rcases List.mem_append.mp member with there | there
    · exact inside.savepoints save there
    · obtain rfl := List.mem_singleton.mp there
      exact inside.pos
  exact .ok { inside with savepoints := kept } trivial

theorem newCheckpoint : Guarded src misses Anything newCheckpoint := by
  intro d inside
  have kept : ∀ c ∈ d.checkpoints ++ [⟨d.progress.pos, false⟩], src.Within c.pos := by
    intro c member
    rcases List.mem_append.mp member with there | there
    · exact inside.checkpoints c there
    · obtain rfl := List.mem_singleton.mp there
      exact inside.pos
  exact .ok { inside with checkpoints := kept } trivial

theorem answerReply (i : Nat) {made : Checkpoint × Reply} (sound : Checkpoint.Sound src made) :
    Guarded src misses (fun answer => ∃ r, answer = .value (.response r) ∧ Placed src r)
      (Script.answerReply i made) :=
  (store sound.1 i).bind fun _ _ => .pure ⟨made.2, rfl, sound.2⟩

theorem errorOf (i : Nat) (message : Option String) :
    Guarded src (fun d => d.checkpoints[i]? = none) (fun e => src.Within e.pos)
      (Script.errorOf src i message) := by
  apply (checkpointAt i).bind
  intro c saved
  have uncommitted : src.Within c.uncommit.pos := saved
  apply (store uncommitted i).bind
  intro _ _
  exact .onStream (Checkpoint.error_safe message)

end Guarded

theorem stride_not_indexes {src : Source} {a b step : Option Int} {fault : Fault}
    (refused : src.stride a b step = .error fault) : fault.indexes = false := by
  unfold Source.stride at refused
  dsimp only at refused
  split at refused
  · cases refused
  · cases refused
    rfl

/-- **An operation stays inside the source**, and only a savepoint or a checkpoint that is not there
is looked up in vain. -/
theorem Operation.perform_guarded {src : Source} {op : Operation} (permitted : op.Permitted) :
    Guarded src op.Misses (op.Reports src) (op.perform src) := by
  cases op with
  | length => exact .pure trivial
  | notAtEnd | atEnd | hasItems | peek =>
    exact (Guarded.onStream .position).bind fun _ _ => .pure trivial
  | item => exact (Guarded.onStream (Stream.item_safe src)).bind fun _ _ => .pure trivial
  | get | moveTo => exact permitted.elim
  | stride a b step =>
    have cut : Safe src Anything (Action.of (src.stride a b step)) :=
      .of (fun _ _ => trivial) fun _ => stride_not_indexes
    exact (Guarded.onStream cut).bind fun _ _ => .pure trivial
  | take amount =>
    exact (Guarded.onStream (Stream.take_safe src permitted)).bind fun _ _ => .pure trivial
  | literal pattern =>
    exact (Guarded.onStream (Stream.literal_safe src pattern)).bind fun _ _ => .pure trivial
  | oneOf patterns =>
    exact (Guarded.onStream (Stream.oneOf_safe src patterns)).bind fun _ _ => .pure trivial
  | parse recipe =>
    apply (Guarded.onBench (Recipe.Composed.makes permitted [])).bind
    intro made composed
    apply (Guarded.onStream (Parser.ComposedWith.contained composed)).bind
    rintro r ⟨placed, forward⟩
    exact .pure ⟨r, rfl, placed, forward⟩
  | save => exact Guarded.newSavepoint.bind fun _ _ => .pure trivial
  | restore i =>
    apply (Guarded.savepointAt i).bind
    intro save saved
    exact (Guarded.onStream (.moveTo saved)).bind fun _ _ => .pure trivial
  | savedRange i =>
    apply (Guarded.savepointAt i).bind
    intro save _
    have range : Safe src Anything save.range := Safe.position.bind fun _ _ => .pure trivial
    exact (Guarded.onStream range).bind fun _ _ => .pure trivial
  | guard i v =>
    apply (Guarded.savepointAt i).bind
    intro save saved
    exact (Guarded.onStream (Savepoint.guard_safe saved _)).bind fun _ _ => .pure trivial
  | guardLast i =>
    intro d inside
    -- The latest answer is there whatever else is.
    have guarded : Guarded src (Operation.Misses · (.guardLast i))
        (Operation.Reports src (.guardLast i)) (do
          onStream ((← savepointAt i).guard d.last.truthy)
          return d.last) := by
      apply (Guarded.savepointAt i).bind
      intro save saved
      exact (Guarded.onStream (Savepoint.guard_safe saved _)).bind fun _ _ => .pure trivial
    exact guarded d inside
  | checkpoint => exact Guarded.newCheckpoint.bind fun _ _ => .pure trivial
  | commit i =>
    apply (Guarded.checkpointAt i).bind
    intro c saved
    have committed : src.Within c.commit.pos := saved
    exact (Guarded.store committed i).bind fun _ _ => .pure trivial
  | rollback i =>
    apply (Guarded.checkpointAt i).bind
    intro c saved
    exact (Guarded.onStream (.moveTo saved)).bind fun _ _ => .pure trivial
  | rollbackIfUncommitted i =>
    apply (Guarded.checkpointAt i).bind
    intro c saved
    have back := Checkpoint.rollbackIfUncommitted_safe saved
    exact (Guarded.onStream back).bind fun _ _ => .pure trivial
  | committed i => exact (Guarded.checkpointAt i).bind fun _ _ => .pure trivial
  | range i =>
    apply (Guarded.checkpointAt i).bind
    intro c _
    have range : Safe src Anything c.range := Safe.position.bind fun _ _ => .pure trivial
    exact (Guarded.onStream range).bind fun _ _ => .pure trivial
  | slice i =>
    apply (Guarded.checkpointAt i).bind
    intro c _
    have cut : Safe src Anything (c.slice src) := Safe.position.bind fun _ _ => .pure trivial
    exact (Guarded.onStream cut).bind fun _ _ => .pure trivial
  | result i data =>
    apply (Guarded.checkpointAt i).bind
    intro c saved
    apply (Guarded.onStream (Checkpoint.result_safe saved data)).bind
    intro made sound
    exact .answerReply i sound
  | fail i message =>
    apply (Guarded.checkpointAt i).bind
    intro c saved
    apply (Guarded.onStream (Checkpoint.fail_safe saved message)).bind
    intro made sound
    exact .answerReply i sound
  | failStart i message =>
    apply (Guarded.checkpointAt i).bind
    intro c saved
    exact .answerReply i (Checkpoint.failStart_sound saved message)
  | error i message =>
    apply (Guarded.errorOf i message).bind
    intro e within
    exact .pure ⟨e, rfl, within⟩
  | raiseError i message => exact (Guarded.errorOf i message).bind fun e _ => .throw rfl
  | raise kind text => exact .throw rfl

theorem Operation.refers_of_misses {op : Operation} {d : Desk} (misses : op.Misses d) :
    op.refers = true := by
  cases op with
  | length | notAtEnd | atEnd | item | get | stride | hasItems | peek | take | literal | oneOf
  | moveTo | parse | save | checkpoint | raise => exact misses.elim
  | _ => rfl

theorem Desk.inside_new {src : Source} {start : Int} (within : src.Within start) :
    (Desk.new start).Inside src where
  pos := within
  savepoints _ member := (List.not_mem_nil member).elim
  checkpoints _ member := (List.not_mem_nil member).elim
  account _ member := (List.not_mem_nil member).elim

namespace Desk.Inside

variable {src : Source} {d : Desk} {i : Nat} {c : Checkpoint}

theorem saved (inside : d.Inside src) {pos : Int} (held : d.saved i = some pos) :
    src.Within pos := by
  obtain ⟨c, found, rfl⟩ := Option.map_eq_some_iff.mp held
  exact inside.checkpoints c (List.mem_of_getElem? found)

theorem noted (inside : d.Inside src) {entry : Entry} (own : entry.Inside src) :
    { d with account := entry :: d.account }.Inside src :=
  { inside with account := List.forall_mem_cons.mpr ⟨own, inside.account⟩ }

theorem exited (inside : d.Inside src) (i : Nat) (fault : Option Fault) {pos : Int}
    (within : src.Within pos) : (d.exited i fault pos).Inside src :=
  { inside with
    pos := within
    account := List.forall_mem_cons.mpr ⟨within, inside.account⟩ }

theorem operation (inside : d.Inside src) {op : Operation} (permitted : op.Permitted) :
    (ending (op.run src d)).Inside src := by
  have leads := Operation.perform_guarded permitted d inside
  unfold Operation.run
  generalize op.perform src d = outcome at leads ⊢
  cases leads with
  | ok inside answer =>
    have answered : Entry.Inside src (.answered op _ _) := ⟨inside.pos, answer⟩
    exact { inside.noted answered with }
  | error inside lost =>
    have raised : Entry.Inside src (.raised op _ _) :=
      ⟨inside.pos, fun indexes => Operation.refers_of_misses (lost indexes)⟩
    exact inside.noted raised

theorem enter {entered : Option Nat} {d' : Desk} (inside : d.Inside src)
    (run : enter entered d = .ok (i, c) d') : d'.Inside src := by
  cases entered with
  | some j =>
    rw [enter_at] at run
    cases found : d.checkpoints[j]? with
    | none => rw [found] at run; cases run
    | some c =>
      rw [found] at run
      cases run
      exact inside
  | none =>
    have made : Leads src (MissesNothing d) Anything (newCheckpoint d) :=
      Guarded.newCheckpoint d inside
    rw [enter_fresh] at run
    cases run
    cases made with
    | ok inside _ => exact inside

theorem leave {r : EStateM.Result Fault Desk Unit} (inside : (ending r).Inside src)
    (held : (ending r).saved i = some c.pos) : (ending (leave i c r)).Inside src := by
  have back := inside.saved held
  have reached := inside.pos
  have stands (fault : Option Fault) (committed : Bool) (d : Desk)
      (here : src.Within d.progress.pos) :
      src.Within (exitPos fault committed d.progress.pos c.pos) := by
    unfold exitPos
    split
    · exact here
    · exact back
  cases r with
  | ok _ d =>
    have left : Script.leave i c (.ok () d) = _ := leave_ok held
    rw [left]
    exact inside.exited i none (stands none _ d reached)
  | error fault d =>
    rw [leave_error]
    exact inside.exited i (some fault) (stands (some fault) _ d reached)

theorem runAll {steps : List Step} (inside : d.Inside src)
    (each : ∀ step ∈ steps, ∀ d : Desk, d.Inside src → (ending (step.run src d)).Inside src) :
    (ending (runAll src steps d)).Inside src := by
  induction steps generalizing d with
  | nil =>
    rw [Script.runAll]
    exact inside
  | cons step rest ih =>
    obtain ⟨first, others⟩ := List.forall_mem_cons.mp each
    have here := first d inside
    rw [Script.runAll, Action.bind_run]
    cases ran : step.run src d with
    | ok _ d' =>
      rw [ran] at here
      exact ih here others
    | error fault d' =>
      rw [ran] at here
      exact here

/-- No step leaves the source, whatever blocks it is made of. -/
theorem step {step : Step} (permitted : step.Permitted) (inside : d.Inside src) :
    (ending (step.run src d)).Inside src := by
  induction permitted generalizing d with
  | operation own =>
    rw [Step.run]
    exact inside.operation own
  | @block entered body _ ih =>
    rw [Step.block_run]
    cases into : Script.enter entered d with
    | error fault d' =>
      cases enter_error into
      exact inside
    | ok entry d₀ =>
      obtain ⟨i, c⟩ := entry
      have body_inside := (inside.enter into).runAll fun step member d inside =>
        ih step member inside
      obtain ⟨new, after⟩ := runAll_after src d₀ body
      exact body_inside.leave (after.saved i c.pos (enter_ok into).2)
  | @attempt body _ ih =>
    have body_inside := inside.runAll fun step member d inside => ih step member inside
    rw [Step.attempt_run]
    cases ran : Script.runAll src body d with
    | ok _ d' =>
      rw [ran] at body_inside
      have caught : Entry.Inside src (.caught none _) := body_inside.pos
      exact body_inside.noted caught
    | error fault d' =>
      rw [ran] at body_inside
      have caught : Entry.Inside src (.caught (some fault) _) := body_inside.pos
      exact body_inside.noted caught

theorem steps {steps : List Step} (permitted : ∀ step ∈ steps, Step.Permitted step)
    (inside : d.Inside src) :
    (steps.foldl (fun d step => ending (step.run src d)) d).Inside src := by
  induction steps generalizing d with
  | nil => exact inside
  | cons step rest ih =>
    obtain ⟨first, others⟩ := List.forall_mem_cons.mp permitted
    rw [List.foldl_cons]
    exact ih others (inside.step first)

end Desk.Inside

/-- What keeps the stream inside a source. -/
structure Contained (src : Source) : Prop where
  /-- At the end of a program the stream is inside, so is everything it can be put back to, and so
  it was after every operation on the way. -/
  programs : ∀ start steps, src.Within start → (∀ step ∈ steps, Step.Permitted step) →
    (finish src start steps).Inside src
  operations : ∀ op : Operation, op.Permitted →
    Guarded src op.Misses (op.Reports src) (op.perform src)
  /-- However a parser comes out, it looks no item up in vain. -/
  parsers : ∀ p : Parser, p.ComposedWith Diagnostic.NoIndex →
    Safe src (fun r => Placed src r ∧ Forward r) (p.run src)

/-- **The stream stays inside the source** that it starts in. -/
theorem stream_contained (src : Source) : Contained src where
  programs _ _ within permitted := (Desk.inside_new within).steps permitted
  operations _ permitted := Operation.perform_guarded permitted
  parsers _ composed := composed.contained

end Script

end Sluice
