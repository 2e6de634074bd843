import Sluice.Proofs.Shifting
import Sluice.Proofs.Truncation

/-!
Inside the source. A step that begins there ends there and finds every item that it looks up, since
it looks nothing up before it has seen that items are left.
-/
namespace Sluice

open Sluice.Action (ReadsOn)

namespace Source

/-- From the beginning of the source on, and not past its end. -/
def Within (src : Source) (i : Int) : Prop :=
  0 ≤ i ∧ i ≤ src.length

variable {src : Source} {i j : Int}

theorem Within.onward (within : src.Within i) (onward : src.Onward i j) : src.Within j := by
  obtain ⟨lo, hi⟩ := within
  obtain ⟨forward, bound⟩ := onward
  constructor <;> omega

theorem Within.item (within : src.Within i) (left : src.hasItems i 1 = true) :
    ∃ v, src.item i = .ok v := by
  simp only [hasItems, decide_eq_true_eq] at left
  cases found : src.item? i with
  | none =>
    have lo := within.1
    rw [item?_eq_none_iff] at found
    omega
  | some v => exact ⟨v, item_of_item? src found⟩

theorem Within.meets (within : src.Within i) (texts : List String) :
    ∃ met, src.meets texts i = .ok met := by
  obtain ⟨n, rfl⟩ := Int.eq_ofNat_of_zero_le within.1
  exact ⟨_, meets_natCast src texts n⟩

end Source

/-- The faults of looking up an item at a position where there is none. -/
def Fault.indexes : Fault → Bool
  | .outOfRange _ | .unindexable => true
  | _ => false

theorem Value.Civil.not_indexes {x : Except Fault α} (civil : Civil x) {fault : Fault}
    (raised : x = .error fault) : fault.indexes = false := by
  obtain ⟨words, rfl⟩ := civil fault raised
  rfl

theorem Value.size_not_indexes {v : Value} {fault : Fault} (unsized : v.size = .error fault) :
    fault.indexes = false := by
  cases v with
  | text | bytes | list | tuple | dict => cases unsized
  | _ =>
    cases unsized
    rfl

namespace Response

/-- All positions that a response reports. -/
def positions : Reply → List Int
  | .success _ _ range => range.toList.flatMap fun (i, j) => [i, j]
  | .failure _ pos _ _ => pos.toList

def Placed (src : Source) (r : Reply) : Prop :=
  ∀ i ∈ positions r, src.Within i

/-- What is parsed ends no sooner than it starts. -/
def Forward : Reply → Prop
  | .success _ _ range => ∃ i j, range = some (i, j) ∧ i ≤ j
  | .failure .. => True

variable {src : Source} {self : Identity} {error : Value} {message : Option String}

theorem placed_success {i j : Int} (start : src.Within i) (stop : src.Within j) (data : Value) :
    Placed src (.success self data (some (i, j))) := by
  intro k member
  have cases : k = i ∨ k = j := by simpa [positions] using member
  rcases cases with rfl | rfl
  · exact start
  · exact stop

theorem placed_failure {i : Int} (within : src.Within i) :
    Placed src (.failure self (some i) error message) := by
  intro k member
  obtain rfl := List.mem_singleton.mp member
  exact within

/-- A rejection reports the start of what it rejects. -/
theorem Placed.rejected {data : Value} {range : Option (Int × Int)}
    (placed : Placed src (.success self data range)) :
    Placed src (.failure none (range.map Prod.fst) error message) := by
  cases range with
  | none => exact fun _ => nofun
  | some range => exact placed_failure (placed range.1 List.mem_cons_self)

end Response

open Response (Placed Forward)

/-- A step ends inside the source, with a good answer or with a fault that is not for want of an
item. -/
inductive Source.Holds (src : Source) (good : α → Prop) :
    EStateM.Result Fault Progress α → Prop where
  | ok {a : α} {t : Progress} (answer : good a) (within : src.Within t.pos) :
      Holds src good (.ok a t)
  | error {fault : Fault} {t : Progress} (own : fault.indexes = false) (within : src.Within t.pos) :
      Holds src good (.error fault t)

/-- A step that holds whenever it begins inside the source. -/
def Action.Safe (src : Source) (good : α → Prop) (act : Action α) : Prop :=
  ∀ s, src.Within s.pos → src.Holds good (act s)

open Sluice.Action (Safe)

/-- No demand on an answer. -/
def Anything (_ : α) : Prop :=
  True

namespace Action.Safe

variable {src : Source} {good : α → Prop} {better : β → Prop}

theorem pure {a : α} (answer : good a) : Safe src good (pure a) :=
  fun _ within => .ok answer within

theorem throw {fault : Fault} (own : fault.indexes = false) :
    Safe src good (throw fault : Action α) :=
  fun _ within => .error own within

theorem bind {x : Action α} {f : α → Action β} (first : Safe src good x)
    (rest : ∀ a, good a → Safe src better (f a)) : Safe src better (x >>= f) := by
  intro s within
  have here := first s within
  rw [bind_run]
  generalize x s = outcome at here ⊢
  cases here with
  | ok answer within => exact rest _ answer _ within
  | error own within => exact .error own within

theorem of {x : Except Fault α} (answer : ∀ a, x = .ok a → good a)
    (own : ∀ fault, x = .error fault → fault.indexes = false) : Safe src good (of x) := by
  cases x with
  | ok a => exact .pure (answer a rfl)
  | error fault => exact .throw (own fault rfl)

/-- For a step that reads on, only its faults are left to see to. -/
theorem of_onward {act : Action α} (onward : ReadsOn src act)
    (own : ∀ s fault t, src.Within s.pos → act s = .error fault t → fault.indexes = false) :
    Safe src Anything act := by
  intro s within
  have there := within.onward (onward s)
  cases ran : act s with
  | ok a t =>
    rw [ran] at there
    exact .ok trivial there
  | error fault t =>
    rw [ran] at there
    exact .error (own s fault t within ran) there

theorem position : Safe src src.Within Stream.position :=
  fun _ within => .ok within within

theorem moveTo {i : Int} (within : src.Within i) : Safe src Anything (Stream.moveTo i) :=
  fun _ _ => .ok trivial within

end Action.Safe

/-! ## Reading -/

namespace Stream

variable (src : Source)

theorem take_safe {amount : Int} (nonneg : 0 ≤ amount) : Safe src Anything (take src amount) := by
  apply Safe.of_onward (take_onward src nonneg)
  intro s fault t _ raised
  rw [take_run] at raised
  cases taken : src.peek s.pos amount with
  | some items => rw [taken] at raised; cases raised
  | none => rw [taken] at raised; cases raised

theorem item_safe : Safe src Anything (item src) := by
  apply Safe.of_onward (item_onward src)
  intro s fault t within raised
  rw [item_run] at raised
  by_cases left : src.hasItems s.pos 1 = true
  · obtain ⟨v, there⟩ := within.item left
    rw [if_pos left, there] at raised
    cases raised
  · rw [if_neg left] at raised
    cases raised

theorem literal_safe (pattern : Value) : Safe src Anything (literal src pattern) := by
  apply Safe.of_onward (literal_onward src pattern)
  intro s fault t _ raised
  rw [literal_run] at raised
  cases sized : pattern.size with
  | error unsized =>
    rw [sized] at raised
    cases raised
    exact Value.size_not_indexes sized
  | ok n =>
    rw [sized] at raised
    dsimp only at raised
    by_cases enough : src.hasItems s.pos n = true
    · rw [if_pos enough] at raised
      cases compared : (src.slice s.pos (s.pos + n)).equals pattern with
      | error uncivil =>
        rw [compared] at raised
        cases raised
        exact (Value.equals_civil _ pattern).not_indexes compared
      | ok answer =>
        rw [compared] at raised
        dsimp only at raised
        by_cases yes : answer.truthy = true
        · rw [if_pos yes] at raised
          cases raised
        · rw [if_neg yes] at raised
          cases raised
    · rw [if_neg enough] at raised
      cases raised

theorem oneOf_safe (patterns : List Value) : Safe src Anything (oneOf src patterns) := by
  induction patterns with
  | nil => exact .pure trivial
  | cons pattern rest ih =>
    apply (literal_safe src pattern).bind
    intro matched _
    cases matched with
    | true => exact .pure trivial
    | false => exact ih

theorem meets_safe (texts : List String) : Safe src Anything (meets src texts) := by
  apply Safe.of_onward (.of_stays (meets_stays src texts))
  intro s fault t within raised
  obtain ⟨met, looked⟩ := within.meets texts
  rw [meets_run, looked] at raised
  cases raised

theorem pass_safe (texts : List String) : Safe src Anything (pass src texts) := by
  apply Safe.of_onward (pass_onward src texts)
  intro s fault t within raised
  obtain ⟨met, looked⟩ := within.meets texts
  rw [pass_run, looked] at raised
  cases met <;> cases raised

theorem skip_safe (texts : List String) : Safe src Anything (skip src texts) := by
  suffices bounded : ∀ n, Safe src Anything (skipUpTo src texts n) by
    intro s within
    exact bounded _ s within
  intro n
  induction n with
  | zero => exact .pure trivial
  | succ n ih =>
    intro s within
    obtain ⟨met, looked⟩ := within.meets texts
    rw [skipUpTo, Action.bind_run, meets_run, looked]
    cases met with
    | false => exact .ok trivial within
    | true => exact ih { s with pos := s.pos + 1 } (within.onward (.of_meets looked))

end Stream

/-! ## Savepoints and checkpoints -/

theorem Savepoint.guard_safe {src : Source} {save : Savepoint} (saved : src.Within save.pos)
    (held : Bool) : Safe src Anything (save.guard held) := by
  cases held with
  | true => exact .pure trivial
  | false => exact .moveTo saved

namespace Checkpoint

variable {src : Source} {c : Checkpoint}

/-- A checkpoint and a response made from it, both inside the source. -/
def Sound (src : Source) (made : Checkpoint × Reply) : Prop :=
  src.Within made.1.pos ∧ Placed src made.2

theorem result_safe (saved : src.Within c.pos) (data : Value) :
    Safe src (Sound src) (c.result data) :=
  fun _ within => .ok ⟨saved, Response.placed_success saved within data⟩ within

theorem fail_safe (saved : src.Within c.pos) (message : Option String) :
    Safe src (Sound src) (c.fail message) :=
  fun _ within => .ok ⟨saved, Response.placed_failure within⟩ within

theorem failStart_sound (saved : src.Within c.pos) (message : Option String) :
    Sound src (c.failStart message) :=
  ⟨saved, Response.placed_failure saved⟩

theorem error_safe (message : Option String) :
    Safe src (fun e => src.Within e.pos) (Checkpoint.error src message) := by
  intro s within
  obtain ⟨e, made, _, pos, _⟩ := ParseError.of_ok src within.1 message
  have run : Checkpoint.error src message s = .ok e s := by
    rw [Checkpoint.error, Action.bind_run, Stream.position_run]
    simp only [made]
    rfl
  have there : src.Within e.pos := by
    rw [pos]
    exact within
  rw [run]
  exact .ok there within

theorem rollbackIfUncommitted_safe (saved : src.Within c.pos) :
    Safe src Anything c.rollbackIfUncommitted := by
  unfold rollbackIfUncommitted
  by_cases committed : c.committed = true
  · rw [if_pos committed]
    exact .pure trivial
  · rw [if_neg committed]
    exact .moveTo saved

theorem block_safe {body : Checkpoint → Action (Checkpoint × Reply)}
    (inner : ∀ c : Checkpoint, src.Within c.pos → Safe src (Sound src) (body c)) :
    Safe src (Placed src) (block body) := by
  intro s within
  have inside := inner ⟨s.pos, false⟩ within s within
  cases ran : body ⟨s.pos, false⟩ s with
  | error fault t =>
    rw [block_of_error ran]
    rw [ran] at inside
    cases inside with
    | error own there => exact .error own within
  | ok made t =>
    rw [ran] at inside
    cases inside with
    | ok sound there =>
      obtain ⟨c, r⟩ := made
      by_cases committed : c.committed = true
      · rw [block_of_committed ran committed]
        exact .ok sound.2 there
      · rw [block_of_uncommitted ran (Bool.not_eq_true _ ▸ committed)]
        exact .ok sound.2 sound.1

end Checkpoint

/-! ## Parsers -/

/-- A diagnostic that does not raise what looking up an item raises. -/
def Diagnostic.NoIndex : Diagnostic → Prop :=
  Diagnostic.RaisesOnly fun fault => fault.indexes = false

namespace Parser

open Checkpoint (Sound block_safe result_safe fail_safe failStart_sound error_safe)

variable (src : Source)

theorem item_safe : Safe src (Placed src) (item.run src) := by
  rw [item, run]
  apply block_safe
  intro c saved
  apply Safe.position.bind
  intro pos _
  by_cases left : src.hasItems pos 1 = true
  · simp only [left, if_true]
    exact (Stream.item_safe src).bind fun v _ => result_safe saved v
  · simp only [left]
    exact fail_safe saved _

theorem take_safe {amount : Int} {p : Parser} (made : take amount = .ok p) :
    Safe src (Placed src) (p.run src) := by
  obtain ⟨nonneg, rfl⟩ := take_eq_ok made
  rw [run, takeBody]
  apply block_safe
  intro c saved
  apply (Stream.take_safe src nonneg).bind
  intro taken _
  cases taken with
  | some items => exact result_safe saved items
  | none => exact fail_safe saved _

theorem literal_safe {patterns : List Value} {p : Parser} (made : literal patterns = .ok p) :
    Safe src (Placed src) (p.run src) := by
  obtain ⟨_, rfl⟩ := literal_eq_ok made
  rw [run, literalBody]
  apply block_safe
  intro c saved
  apply (Stream.oneOf_safe src patterns).bind
  intro found _
  cases found with
  | some pattern => exact result_safe saved pattern
  | none => exact fail_safe saved _

theorem blanks_safe : Safe src (Placed src) (blanks.run src) := by
  rw [blanks, run]
  apply block_safe
  intro c saved
  exact (Stream.skip_safe src (Text.letters Text.blanks)).bind fun _ _ => result_safe saved _

theorem integerDigits_safe {c : Checkpoint} (saved : src.Within c.pos) :
    Safe src (Sound src) (integerDigits src c) := by
  apply (Stream.meets_safe src (Text.letters Text.digits)).bind
  intro met _
  cases met with
  | false => exact .pure (failStart_sound saved _)
  | true =>
    apply (Stream.skip_safe src (Text.letters Text.digits)).bind
    intro _ _
    apply Safe.position.bind
    intro pos _
    simp only
    cases Text.readNumeral (joined (src.cut c.pos pos).items) with
    | ok n => exact result_safe saved _
    | error fault => exact .throw rfl

theorem integer_safe : Safe src (Placed src) (integer.run src) := by
  rw [integer, run]
  apply block_safe
  intro c saved
  exact (Stream.pass_safe src (Text.letters Text.signs)).bind fun _ _ =>
    integerDigits_safe src saved

variable {src}

theorem call_safe {d : Diagnostic} (own : d.NoIndex) : Safe src Anything d.call := by
  intro s within
  rw [Diagnostic.call_run]
  cases answered : d.answer (Diagnostic.count (d.number :: s.calls) d.number) with
  | ok v => exact .ok trivial within
  | error fault => exact .error (own _ fault answered) within

theorem narrow_safe {layer : Layer} {r : Reply}
    (own : ∀ d, layer.diagnostic = some d → d.NoIndex) (placed : Placed src r) :
    Safe src (Placed src) (layer.narrow r) := by
  intro s within
  rw [narrow_run]
  cases r with
  | failure => exact .ok placed within
  | success self data range =>
    dsimp only
    cases held : layer.holds data with
    | error fault => exact .error ((layer.holds_civil data).not_indexes held) within
    | ok holds =>
      cases holds with
      | true => exact .ok placed within
      | false =>
        dsimp only
        cases diagnosed : layer.diagnostic with
        | none => exact .ok placed.rejected within
        | some d =>
          have called := call_safe (own d diagnosed) s within
          dsimp only
          generalize d.call s = outcome at called ⊢
          cases called with
          | ok _ there => exact .ok placed.rejected there
          | error raised there => exact .error raised there

theorem runAll_safe {parts : List Part}
    (each : ∀ part ∈ parts, Safe src (Placed src) (part.parser.run src)) :
    Safe src (fun all => ∀ part r, all = .error (part, r) → Placed src r) (runAll src parts) := by
  induction parts with
  | nil => exact .pure nofun
  | cons part rest ih =>
    obtain ⟨first, others⟩ := List.forall_mem_cons.mp each
    apply first.bind
    intro r placed
    cases r with
    | failure =>
      apply Safe.pure
      rintro _ _ ⟨⟩
      exact placed
    | success self data range =>
      apply (ih others).bind
      intro all stopped
      apply Safe.pure
      intro part r failed
      cases all with
      | ok values => cases failed
      | error stop =>
        cases failed
        exact stopped part r rfl

theorem Part.settle_safe (part : Part) {c : Checkpoint} (saved : src.Within c.pos) {r : Reply}
    (placed : Placed src r) : Safe src (Sound src) (part.settle src c r) := by
  rcases part with ⟨parser, mode, message⟩
  cases mode with
  | fail => exact fail_safe saved message
  | failStart => exact .pure (failStart_sound saved message)
  | error => exact (error_safe message).bind fun e _ => .throw rfl
  | propagate => exact .pure ⟨saved, placed⟩

theorem sequence_safe {parts : List Part}
    (each : ∀ part ∈ parts, Safe src (Placed src) (part.parser.run src)) :
    Safe src (Placed src) ((sequence parts).run src) := by
  rw [sequence, run]
  apply block_safe
  intro c saved
  apply (runAll_safe each).bind
  intro all stopped
  rcases all with ⟨part, r⟩ | values
  · exact part.settle_safe saved (stopped part r rfl)
  · exact result_safe saved _

theorem ComposedWith.safe {p : Parser} (composed : p.ComposedWith Diagnostic.NoIndex) :
    Safe src (Placed src) (p.run src) := by
  induction composed with
  | item => exact item_safe src
  | blanks => exact blanks_safe src
  | integer => exact integer_safe src
  | take made => exact take_safe src made
  | literal made => exact literal_safe src made
  | filter inner own ih => exact ih.bind fun r placed => narrow_safe own placed
  | sequence all ih => exact sequence_safe ih

/-- A success reports all that was read for it. -/
theorem Composed.forward {p : Parser} (composed : Composed p) {s t : Progress} {r : Reply}
    (run : p.run src s = .ok r t) : Forward r := by
  cases r with
  | failure => trivial
  | success self data range =>
    have based := base_of_truthy run rfl
    obtain ⟨whole, onward⟩ := (composed.base_allOrNothing src s).parsed self data range t based
    exact ⟨s.pos, t.pos, whole, onward.1⟩

/-- **Composed parsers stay inside the source.** -/
theorem ComposedWith.contained {p : Parser} (composed : p.ComposedWith Diagnostic.NoIndex) :
    Safe src (fun r => Placed src r ∧ Forward r) (p.run src) := by
  intro s within
  have safe := composed.safe s within
  cases ran : p.run src s with
  | ok r t =>
    rw [ran] at safe
    cases safe with
    | ok placed there => exact .ok ⟨placed, composed.composed.forward ran⟩ there
  | error fault t =>
    rw [ran] at safe
    cases safe with
    | error own there => exact .error own there

end Parser

end Sluice
