import Sluice.Parser
import Sluice.Text.Numeral

/-!
The parsers that come with the library: one item, some items, a literal, blanks and a whole number.
They work on texts and on sequences of one-character texts alike.
-/
namespace Sluice.Parser

/-- Exactly one item of any kind. -/
def item : Parser :=
  .fn (.named "item") fun src => Checkpoint.block fun c => do
    if src.hasItems (← Stream.position) 1 then
      c.result (← Stream.item src)
    else
      c.fail (some "Unexpected end of input.")

theorem item_run (src : Source) (s : Progress) :
    item.run src s = if src.hasItems s.pos 1 then
        match src.item s.pos with
        | .ok v => .ok (.success none v (some (s.pos, s.pos + 1))) { s with pos := s.pos + 1 }
        | .error fault => .error fault s
      else .ok (.failure none (some s.pos) .nothing (some "Unexpected end of input.")) s := by
  rw [item, run]
  by_cases left : src.hasItems s.pos 1 = true
  · simp only [Checkpoint.block, Action.bind_run, Stream.position_run, Stream.item_run, left,
      if_true]
    cases src.item s.pos <;> rfl
  · simp only [Checkpoint.block, Action.bind_run, Stream.position_run, left]
    rfl

/-- The next `amount` items. -/
def takeBody (amount : Int) (src : Source) : Action Reply :=
  Checkpoint.block fun c => do
    match ← Stream.take src amount with
    | some items => c.result items
    | none => c.fail (some ("Expected " ++ toString amount ++ " items."))

theorem takeBody_run (amount : Int) (src : Source) (s : Progress) :
    takeBody amount src s = match src.peek s.pos amount with
      | some items =>
        .ok (.success none items (some (s.pos, s.pos + amount))) { s with pos := s.pos + amount }
      | none => .ok (.failure none (some s.pos) .nothing
          (some ("Expected " ++ toString amount ++ " items."))) s := by
  simp only [takeBody, Checkpoint.block, Action.bind_run, Stream.take_run]
  cases src.peek s.pos amount <;> rfl

/-- An amount below zero is refused before there is a parser. -/
def take (amount : Int) : Except Fault Parser :=
  if amount < 0 then .error .negativeAmount
  else .ok (.fn (.named "inner") (takeBody amount))

theorem take_eq_ok {amount : Int} {p : Parser} (made : take amount = .ok p) :
    0 ≤ amount ∧ p = .fn (.named "inner") (takeBody amount) := by
  unfold take at made
  split at made
  · cases made
  · cases made
    exact ⟨by omega, rfl⟩

def expected (patterns : List Value) : String :=
  match patterns with
  | [pattern] => "Expected " ++ pattern.shown ++ "."
  | patterns => "Expected one of " ++ Value.commaSeparated (patterns.map Value.shown) ++ "."

/-- The first of the patterns that matches, itself as the data. -/
def literalBody (patterns : List Value) (src : Source) : Action Reply :=
  Checkpoint.block fun c => do
    match ← Stream.oneOf src patterns with
    | some pattern => c.result pattern
    | none => c.fail (some (expected patterns))

/-- There has to be a pattern. -/
def literal (patterns : List Value) : Except Fault Parser :=
  if patterns.isEmpty then .error .noLiterals
  else .ok (.fn (.named "inner") (literalBody patterns))

theorem literal_eq_ok {patterns : List Value} {p : Parser} (made : literal patterns = .ok p) :
    patterns ≠ [] ∧ p = .fn (.named "inner") (literalBody patterns) := by
  unfold literal at made
  split at made
  · cases made
  · rename_i some_pattern
    cases made
    exact ⟨fun none => some_pattern (by rw [none]; rfl), rfl⟩

/-- Any number of blanks, also none. -/
def blanks : Parser :=
  .fn (.named "ws0") fun src => Checkpoint.block fun c => do
    Stream.skip src (Text.letters Text.blanks)
    c.result .nothing

/-- The texts among the items of a slice, joined. -/
def joined (items : List Value) : List Char :=
  items.flatMap fun item => match item with
    | .text s => s.toList
    | _ => []

/-- The digits of a whole number, with the sign that the checkpoint may have been set before. -/
def integerDigits (src : Source) (c : Checkpoint) : Action (Checkpoint × Reply) := do
  if ← Stream.meets src (Text.letters Text.digits) then
    Stream.skip src (Text.letters Text.digits)
    let read := joined (src.cut c.pos (← Stream.position)).items
    match Text.readNumeral read with
    | .ok n => c.result (.int n)
    | .error fault => throw (.numeral fault)
  else
    return c.failStart (some "Expected a decimal digit.")

theorem integerDigits_run (src : Source) (c : Checkpoint) (s : Progress) :
    integerDigits src c s = match src.meets (Text.letters Text.digits) s.pos with
      | .error fault => .error fault s
      | .ok false => .ok (c.failStart (some "Expected a decimal digit.")) s
      | .ok true => match Stream.skip src (Text.letters Text.digits) s with
        | .error fault t => .error fault t
        | .ok _ t => match Text.readNumeral (joined (src.cut c.pos t.pos).items) with
          | .ok n => c.result (.int n) t
          | .error fault => .error (.numeral fault) t := by
  rw [integerDigits, Action.bind_run, Stream.meets_run]
  cases src.meets (Text.letters Text.digits) s.pos with
  | error fault => rfl
  | ok met =>
    cases met with
    | false => rfl
    | true =>
      simp only [if_true, Action.bind_run]
      cases Stream.skip src (Text.letters Text.digits) s with
      | error fault t => rfl
      | ok _ t =>
        simp only [Stream.position_run]
        cases Text.readNumeral (joined (src.cut c.pos t.pos).items) <;> rfl

/-- A whole number: an optional sign and at least one digit. The failure of a sign without digits
lies before the sign. -/
def integer : Parser :=
  .fn (.named "integer_number") fun src => Checkpoint.block fun c => do
    Stream.pass src (Text.letters Text.signs)
    integerDigits src c

end Sluice.Parser
