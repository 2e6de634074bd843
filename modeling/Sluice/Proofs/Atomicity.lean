import Sluice.Parser.Composed
import Sluice.Parser.Tower
import Sluice.Proofs.Onward

/-!
All or nothing. A parser that reads through a checkpoint either takes everything from where it
started up to where the stream then stands, or puts the stream back. A filter does not: it leaves
the stream where its inner parser left it, and only a checkpoint around it puts a rejected value
back.
-/
namespace Sluice

open Sluice.Action (ReadsOn)

/-- How a run from `start` can come out. -/
structure AllOrNothing (src : Source) (start : Int)
    (outcome : EStateM.Result Fault Progress Reply) : Prop where
  parsed : ∀ self data range t, outcome = .ok (.success self data range) t →
    range = some (start, t.pos) ∧ src.Onward start t.pos
  failed : ∀ self pos error message t, outcome = .ok (.failure self pos error message) t →
    t.pos = start
  raised : ∀ fault t, outcome = .error fault t → t.pos = start

namespace AllOrNothing

variable {src : Source} {start : Int} {t : Progress}

theorem of_success (self : Identity) (data : Value) (onward : src.Onward start t.pos) :
    AllOrNothing src start (.ok (.success self data (some (start, t.pos))) t) := by
  constructor
  · intro self data range t out
    cases out
    exact ⟨rfl, onward⟩
  · nofun
  · nofun

theorem of_failure (self : Identity) (pos : Option Int) (error : Value) (message : Option String)
    (back : t.pos = start) : AllOrNothing src start (.ok (.failure self pos error message) t) := by
  constructor
  · nofun
  · intro self pos error message t out
    cases out
    exact back
  · nofun

theorem of_error (fault : Fault) (back : t.pos = start) :
    AllOrNothing src start (.error fault t) := by
  constructor
  · nofun
  · nofun
  · intro fault t out
    cases out
    exact back

theorem onward {outcome : EStateM.Result Fault Progress Reply}
    (whole : AllOrNothing src start outcome) : src.Onward start (ending outcome).pos := by
  cases outcome with
  | error fault t =>
    have back : t.pos = start := whole.raised fault t rfl
    rw [ending, back]
    exact .refl src start
  | ok r t =>
    cases r with
    | success self data range => exact (whole.parsed self data range t rfl).2
    | failure self pos error message =>
      have back : t.pos = start := whole.failed self pos error message t rfl
      rw [ending, back]
      exact .refl src start

end AllOrNothing

namespace Checkpoint

theorem error_stays (src : Source) (message : Option String) :
    Action.Stays (Checkpoint.error src message) :=
  .bind Stream.position_stays fun _ => .of _

/-- What the body of a block has made of its checkpoint: a success of all that was read commits, and
a failure does not. -/
def Settled (start : Int) : EStateM.Result Fault Progress (Checkpoint × Reply) → Prop
  | .ok (c, .success _ _ range) t => c = ⟨start, true⟩ ∧ range = some (start, t.pos)
  | .ok (c, .failure ..) _ => c = ⟨start, false⟩
  | .error .. => True

/-- A way to end the body of a block, without going back. -/
def Settles (src : Source) (start : Int) (act : Action (Checkpoint × Reply)) : Prop :=
  ∀ s, Settled start (act s) ∧ src.Onward s.pos (ending (act s)).pos

namespace Settles

variable {src : Source} {start : Int}

theorem result (data : Value) : Settles src start (Checkpoint.result ⟨start, false⟩ data) :=
  fun s => ⟨⟨rfl, rfl⟩, .refl src s.pos⟩

theorem fail (message : Option String) :
    Settles src start (Checkpoint.fail ⟨start, false⟩ message) :=
  fun s => ⟨rfl, .refl src s.pos⟩

theorem failStart (message : Option String) :
    Settles src start (pure (Checkpoint.failStart ⟨start, false⟩ message)) :=
  fun s => ⟨rfl, .refl src s.pos⟩

theorem throw (fault : Fault) : Settles src start (throw fault) :=
  fun s => ⟨trivial, .refl src s.pos⟩

theorem propagate {r : Reply} (failure : r.truthy = false) :
    Settles src start (pure (⟨start, false⟩, r)) := by
  intro s
  cases r with
  | success => cases failure
  | failure => exact ⟨rfl, .refl src s.pos⟩

/-- Only what the first step can hand on has to settle the checkpoint. -/
theorem bind_of {x : Action α} {f : α → Action (Checkpoint × Reply)} (first : ReadsOn src x)
    (rest : ∀ a, (∃ s t, x s = .ok a t) → Settles src start (f a)) :
    Settles src start (x >>= f) := by
  intro s
  have here := first s
  rw [Action.bind_run]
  cases h : x s with
  | error fault t =>
    rw [h] at here
    exact ⟨trivial, here⟩
  | ok a t =>
    rw [h] at here
    obtain ⟨settled, there⟩ := rest a ⟨s, t, h⟩ t
    exact ⟨settled, here.trans there⟩

theorem bind {x : Action α} {f : α → Action (Checkpoint × Reply)} (first : ReadsOn src x)
    (rest : ∀ a, Settles src start (f a)) : Settles src start (x >>= f) :=
  bind_of first fun a _ => rest a

end Settles

/-- **A block is all or nothing** when its body settles the checkpoint. -/
theorem block_allOrNothing {src : Source} {body : Checkpoint → Action (Checkpoint × Reply)}
    (s : Progress) (settles : Settles src s.pos (body ⟨s.pos, false⟩)) :
    AllOrNothing src s.pos (block body s) := by
  obtain ⟨settled, onward⟩ := settles s
  cases h : body ⟨s.pos, false⟩ s with
  | error fault t =>
    rw [block_of_error h]
    exact .of_error fault rfl
  | ok answer t =>
    rw [h] at settled onward
    rcases answer with ⟨c, ⟨self, data, range⟩ | ⟨self, pos, error, message⟩⟩
    · obtain ⟨rfl, rfl⟩ := settled
      rw [block_of_committed h rfl]
      exact .of_success self data onward
    · cases settled
      rw [block_of_uncommitted h rfl]
      exact .of_failure self pos error message rfl

end Checkpoint

namespace Parser

open Checkpoint (Settles block_allOrNothing)

variable (src : Source) (s : Progress)

theorem item_allOrNothing : AllOrNothing src s.pos (item.run src s) := by
  rw [item, run]
  apply block_allOrNothing
  refine .bind (.of_stays Stream.position_stays) fun pos => ?_
  split
  · exact .bind (Stream.item_onward src) fun v => .result v
  · exact .fail _

theorem take_allOrNothing {amount : Int} {p : Parser} (made : take amount = .ok p) :
    AllOrNothing src s.pos (p.run src s) := by
  obtain ⟨nonneg, rfl⟩ := take_eq_ok made
  rw [run, takeBody]
  apply block_allOrNothing
  refine .bind (Stream.take_onward src nonneg) fun taken => ?_
  cases taken with
  | some items => exact .result items
  | none => exact .fail _

theorem literal_allOrNothing {patterns : List Value} {p : Parser}
    (made : literal patterns = .ok p) : AllOrNothing src s.pos (p.run src s) := by
  obtain ⟨-, rfl⟩ := literal_eq_ok made
  rw [run, literalBody]
  apply block_allOrNothing
  refine .bind (Stream.oneOf_onward src patterns) fun matched => ?_
  cases matched with
  | some pattern => exact .result pattern
  | none => exact .fail _

theorem blanks_allOrNothing : AllOrNothing src s.pos (blanks.run src s) := by
  rw [blanks, run]
  apply block_allOrNothing
  exact .bind (Stream.skip_onward src (Text.letters Text.blanks)) fun _ => .result _

theorem integerDigits_settles (start : Int) :
    Settles src start (integerDigits src ⟨start, false⟩) := by
  refine .bind (.of_stays (Stream.meets_stays src (Text.letters Text.digits))) fun met => ?_
  cases met with
  | false => exact .failStart _
  | true =>
    refine .bind (Stream.skip_onward src (Text.letters Text.digits)) fun _ => ?_
    refine .bind (.of_stays Stream.position_stays) fun pos => ?_
    simp only
    split
    · exact .result _
    · exact .throw _

theorem integer_allOrNothing : AllOrNothing src s.pos (integer.run src s) := by
  rw [integer, run]
  apply block_allOrNothing
  exact .bind (Stream.pass_onward src (Text.letters Text.signs)) fun _ =>
    integerDigits_settles src s.pos

theorem run_base_pos (p : Parser) :
    (ending (p.run src s)).pos = (ending (p.base.run src s)).pos := by
  have stacked := run_tower_pos p.base p.layers src s
  rwa [tower_base_layers] at stacked

variable {src}

/-- Filters do not go back either, whatever they are stacked on. -/
theorem run_onward {p : Parser} (base : ∀ s, AllOrNothing src s.pos (p.base.run src s)) :
    ReadsOn src (p.run src) := by
  intro s
  rw [run_base_pos]
  exact (base s).onward

theorem runAll_onward {parts : List Part}
    (onward : ∀ part ∈ parts, ReadsOn src (part.parser.run src)) :
    ReadsOn src (runAll src parts) := by
  induction parts with
  | nil => exact .of_stays (.pure _)
  | cons part rest ih =>
    obtain ⟨first, others⟩ := List.forall_mem_cons.mp onward
    refine .bind first fun r => ?_
    cases r with
    | success self data range => exact .bind (ih others) fun all => .of_stays (.pure _)
    | failure => exact .of_stays (.pure _)

/-- A sequence stops at a failure. -/
theorem runAll_failure {parts : List Part} {part : Part} {r : Reply} {s t : Progress}
    (run : runAll src parts s = .ok (.error (part, r)) t) : r.truthy = false := by
  induction parts generalizing s with
  | nil => cases run
  | cons first rest ih =>
    rw [runAll, Action.bind_run] at run
    cases ran : first.parser.run src s with
    | error fault u => rw [ran] at run; cases run
    | ok answer u =>
      rw [ran] at run
      cases answer with
      | failure => cases run; rfl
      | success self data range =>
        simp only [Action.bind_run] at run
        cases others : runAll src rest u with
        | error fault v => rw [others] at run; cases run
        | ok all v =>
          rw [others] at run
          cases all with
          | ok values => cases run
          | error stopped => cases run; exact ih others

theorem Part.settle_settles (part : Part) (start : Int) {r : Reply} (failure : r.truthy = false) :
    Settles src start (part.settle src ⟨start, false⟩ r) := by
  rcases part with ⟨parser, mode, message⟩
  cases mode with
  | fail => exact .fail message
  | failStart => exact .failStart message
  | error =>
    exact .bind (.of_stays (Checkpoint.error_stays src message)) fun e => .throw _
  | propagate => exact .propagate failure

/-- No sequence succeeds once a part has failed. -/
theorem Part.settle_of_failure {part : Part} {check : Checkpoint} {r : Reply} {s t : Progress}
    {a : Checkpoint × Reply} (failure : r.truthy = false)
    (run : part.settle src check r s = .ok a t) : a.2.truthy = false := by
  rcases part with ⟨parser, mode, message⟩
  cases mode with
  | fail => cases run; rfl
  | failStart => cases run; rfl
  | error =>
    simp only [settle, Action.bind_run] at run
    cases noted : Checkpoint.error src message s with
    | error fault u => rw [noted] at run; cases run
    | ok e u => rw [noted] at run; cases run
  | propagate => cases run; exact failure

theorem sequence_allOrNothing {parts : List Part}
    (onward : ∀ part ∈ parts, ReadsOn src (part.parser.run src)) :
    AllOrNothing src s.pos ((sequence parts).run src s) := by
  rw [sequence, run]
  apply block_allOrNothing
  refine .bind_of (runAll_onward onward) fun all came => ?_
  obtain ⟨s', t, ran⟩ := came
  rcases all with ⟨part, r⟩ | values
  · exact part.settle_settles s.pos (runAll_failure ran)
  · exact .result _

/-- A parser that is no filter. -/
def Plain (p : Parser) : Prop :=
  p.layers = []

theorem Plain.base_eq {p : Parser} (plain : p.Plain) : p.base = p := by
  cases p with
  | fn => rfl
  | filter inner layer => cases (List.append_eq_nil_iff.mp plain).2

theorem base_plain (p : Parser) : p.base.Plain := by
  induction p with
  | fn => rfl
  | filter inner layer ih => exact ih

theorem take_plain {amount : Int} {p : Parser} (made : take amount = .ok p) : p.Plain := by
  obtain ⟨-, rfl⟩ := take_eq_ok made
  rfl

theorem literal_plain {patterns : List Value} {p : Parser} (made : literal patterns = .ok p) :
    p.Plain := by
  obtain ⟨-, rfl⟩ := literal_eq_ok made
  rfl

namespace Composed

theorem base {p : Parser} (composed : Composed p) : Composed p.base := by
  induction composed with
  | item => exact .item
  | blanks => exact .blanks
  | integer => exact .integer
  | take made =>
    rw [(take_plain made).base_eq]
    exact .take made
  | literal made =>
    rw [(literal_plain made).base_eq]
    exact .literal made
  | filter inner ih => exact ih
  | sequence all => exact .sequence all

theorem base_allOrNothing {p : Parser} (composed : Composed p) (src : Source) (s : Progress) :
    AllOrNothing src s.pos (p.base.run src s) := by
  induction composed generalizing s with
  | item => exact item_allOrNothing src s
  | blanks => exact blanks_allOrNothing src s
  | integer => exact integer_allOrNothing src s
  | take made =>
    rw [(take_plain made).base_eq]
    exact take_allOrNothing src s made
  | literal made =>
    rw [(literal_plain made).base_eq]
    exact literal_allOrNothing src s made
  | filter inner ih => exact ih s
  -- A part may be a filter that leaves a rejected value behind, but none goes back.
  | sequence all ih => exact sequence_allOrNothing s fun part member => run_onward (ih part member)

theorem onward {p : Parser} (composed : Composed p) (src : Source) : ReadsOn src (p.run src) :=
  run_onward (composed.base_allOrNothing src)

end Composed

/-- How a composed parser treats the position. -/
structure Atomic (p : Parser) (src : Source) (s : Progress) : Prop where
  plain : p.Plain → AllOrNothing src s.pos (p.run src s)
  /-- Filters end where the parser under them ends, however either of them comes out. -/
  tower : ∀ (b : Parser) (layers : List Layer), b.Plain → p = b.tower layers →
    AllOrNothing src s.pos (b.run src s) ∧
    (ending (p.run src s)).pos = (ending (b.run src s)).pos
  based : ∃ b layers, Composed b ∧ b.Plain ∧ p = b.tower layers
  onward : s.pos ≤ (ending (p.run src s)).pos

/-- **Composed parsers are atomic.** What a filter rejects stays consumed, until a checkpoint around
the filter goes back: a sequence with the filter in it is no filter itself. -/
theorem composed_atomic {p : Parser} (composed : Composed p) (src : Source) (s : Progress) :
    Atomic p src s := by
  have whole := composed.base_allOrNothing src s
  constructor
  · intro plain
    rwa [plain.base_eq] at whole
  · rintro b layers plain rfl
    rw [base_tower, plain.base_eq] at whole
    exact ⟨whole, run_tower_pos b layers src s⟩
  · exact ⟨p.base, p.layers, composed.base, base_plain p, (tower_base_layers p).symm⟩
  · exact (composed.onward src s).1

/-- The filter leaves the rejected character behind, and the sequence around it goes back. -/
theorem composed_atomic_rejected :
    let rejecting := item.filter ⟨.eq, .text "b", none⟩
    let p := sequence [⟨rejecting, .propagate, none⟩]
    Composed p ∧ Atomic p (.ofText "a") ⟨0, []⟩ ∧
      (ending (rejecting.run (.ofText "a") ⟨0, []⟩)).pos = 1 ∧
      (ending (p.run (.ofText "a") ⟨0, []⟩)).pos = 0 := by
  intro rejecting p
  have composed : Composed p :=
    .sequence fun part member => by cases List.mem_singleton.mp member; exact .filter .item
  have atomic := composed_atomic composed (.ofText "a") ⟨0, []⟩
  refine ⟨composed, atomic, rfl, ?_⟩
  exact (atomic.plain rfl).failed _ _ _ _ _ rfl

end Parser

end Sluice
